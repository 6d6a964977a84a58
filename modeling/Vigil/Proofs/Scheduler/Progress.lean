import Vigil.Proofs.Scheduler.Lockstep

/-!
# What can be done at once comes to an end

Each job takes off more of what is left to do than it adds, but for the start of an execution that
is over at once and brings back a task that is due again. Where intervals are positive, no task is,
so all that can run at an instant comes to an end (`Arises.settle_idle`), and so does every instant
on the way of the clock (`Arises.rests`).
-/
namespace Vigil

open Queue

variable {ω : Type}

namespace Queue

/-- How many tasks of the queue are due. -/
def overdue (q : Queue ω) (now : Int) : Nat := q.heap.slots.countP (·.task.isDue now)

theorem overdue_place (q : Queue ω) (t : Task ω) (now : Int) :
    (q.place t).overdue now = q.overdue now + (t.isDue now).toNat := by
  have perm := (Heap.insert_perm q.heap t).countP_eq (·.task.isDue now)
  rw [Array.countP_toList, List.countP_cons, Array.countP_toList] at perm
  refine perm.trans ?_
  cases t.isDue now <;> rfl

theorem overdue_take {q : Queue ω} {t : Task ω} (head : q.heap.peek = some t) (now : Int) :
    q.overdue now = (q.take t).overdue now + (t.isDue now).toNat := by
  obtain ⟨e, first, rfl⟩ := Option.map_eq_some_iff.mp head
  have perm := (Heap.removeAt_perm first).countP_eq (·.task.isDue now)
  rw [Array.countP_toList, List.countP_cons, Array.countP_toList] at perm
  refine perm.trans ?_
  cases e.task.isDue now <;> rfl

/-- A dispatch loop takes what is due. -/
theorem Sound.overdue_takeDue {q : Queue ω} (sound : q.Sound) (now : Int) :
    q.overdue now = (q.takeDue now).1.overdue now + (q.takeDue now).2.1.length := by
  fun_induction Queue.takeDue q now with
  | case1 | case2 => rfl
  | case3 q t rest looked after tasks last eq ih =>
    obtain ⟨open_, head, due, rfl⟩ := glance_taken sound looked
    have one := overdue_take head now
    have others := ih (sound.take open_ head).2.1
    have here : t.isDue now = true := decide_eq_true due
    rw [eq] at others
    rw [one, others, here, List.length_cons]
    rfl

end Queue

namespace Scheduler

variable {s s' : Scheduler ω} {name : String}

/-- How many tasks of all queues are due. -/
def overdue (s : Scheduler ω) : Nat := s.lines.foldr (fun l n => dueCount s.now l + n) 0

def effort (jobs : List (Job ω)) : Nat := jobs.foldr (fun job n => weight job + n) 0

theorem workload_eq (s : Scheduler ω) : s.workload = effort s.ready + 4 * s.overdue := rfl

@[simp] theorem effort_cons (job : Job ω) (jobs : List (Job ω)) :
    effort (job :: jobs) = weight job + effort jobs := rfl

@[simp] theorem effort_append (first second : List (Job ω)) :
    effort (first ++ second) = effort first + effort second := by
  induction first with
  | nil => simp [effort]
  | cons job rest ih => rw [List.cons_append, effort_cons, ih, effort_cons, Nat.add_assoc]

theorem effort_starts (name : String) (tasks : List (Task ω)) (first : Nat) :
    effort ((tasks.zipIdx first).map fun x => .start name x.2 x.1) = 3 * tasks.length := by
  induction tasks generalizing first with
  | nil => rfl
  | cons t rest ih =>
    rw [List.zipIdx_cons, List.map_cons, effort_cons, ih, List.length_cons, weight]
    omega

theorem foldr_modify {lines : List (Line ω)} (distinct : (lines.map (·.name)).Nodup)
    {line : Line ω} (here : lines.find? (·.name == name) = some line) (f : Line ω → Line ω)
    (g : Line ω → Nat) :
    (lines.map fun l => if l.name == name then f l else l).foldr (fun l n => g l + n) 0 + g line =
      lines.foldr (fun l n => g l + n) 0 + g (f line) := by
  induction lines with
  | nil => cases here
  | cons l rest ih =>
    obtain ⟨new, distinct'⟩ := List.nodup_cons.mp distinct
    rw [List.find?_cons] at here
    by_cases named : l.name = name
    · simp only [named, beq_self_eq_true, Option.some.injEq] at here
      subst here
      have others : rest.map (fun l => if l.name == name then f l else l) = rest.map id := by
        refine List.map_congr_left fun other inside => if_neg fun same => new ?_
        exact List.mem_map.mpr ⟨other, inside, (beq_iff_eq.mp same).trans named.symm⟩
      simp only [List.map_cons, named, beq_self_eq_true, ↓reduceIte, others, List.map_id,
        List.foldr_cons]
      omega
    · have other : (l.name == name) = false := beq_eq_false_iff_ne.mpr named
      rw [other] at here
      have inner := ih distinct' here
      simp only [List.map_cons, other, Bool.false_eq_true, ↓reduceIte, List.foldr_cons]
      omega

/-- The queue of a line is changed. -/
theorem overdue_modifyLine (distinct : s.titles.Nodup) {old : Queue ω}
    (here : s.queue? name = some old) {f : Line ω → Line ω} {q : Queue ω}
    (placed : ∀ l, (f l).queue = q) :
    (s.modifyLine name f).overdue + old.overdue s.now = s.overdue + q.overdue s.now := by
  obtain ⟨line, found, rfl⟩ := Option.map_eq_some_iff.mp here
  have counted := foldr_modify distinct found f (dueCount s.now)
  have after : dueCount s.now (f line) = q.overdue s.now := by rw [dueCount, placed]; rfl
  rw [after] at counted
  exact counted

/-- Only loops are changed. -/
theorem overdue_modifyLoop (s : Scheduler ω) (name : String) {f : Line ω → Line ω}
    (keeps : ∀ l, (f l).queue = l.queue) : (s.modifyLine name f).overdue = s.overdue := by
  have same (l : Line ω) : dueCount s.now (if l.name == name then f l else l) =
      dueCount s.now l := by
    split
    · rw [dueCount, keeps, dueCount]
    · rfl
  simp only [overdue, modifyLine, List.foldr_map, same]

theorem workload_wake (s : Scheduler ω) (name : String) :
    (s.wake name).workload ≤ s.workload + 1 := by
  rcases wake_cases s name with ⟨same, _⟩ | ⟨_, _, _, _, woken⟩
  · rw [same]
    exact Nat.le_succ _
  · have lines := s.overdue_modifyLoop name
      (f := fun l => { l with loop := .runnable }) fun _ => rfl
    have jobs : effort (s.ready ++ [.dispatch name]) = effort s.ready + 1 := by
      rw [effort_append]
      rfl
    have total : (s.wake name).workload = effort (s.ready ++ [.dispatch name]) +
        4 * (s.modifyLine name fun l => { l with loop := .runnable }).overdue := by
      rw [woken]
      rfl
    rw [total, jobs, lines, workload_eq]
    omega

theorem workload_putQueue (distinct : s.titles.Nodup) {old q : Queue ω}
    (here : s.queue? name = some old) (fewer : q.overdue s.now ≤ old.overdue s.now)
    (wakes : Bool) : (s.putQueue name q wakes).workload ≤ s.workload + 1 := by
  have lines := overdue_modifyLine distinct here (f := fun l => { l with queue := q }) fun _ => rfl
  have put : (s.modifyLine name fun l => { l with queue := q }).workload ≤ s.workload := by
    rw [workload_eq, workload_eq]
    have same : (s.modifyLine name fun l => { l with queue := q }).ready = s.ready := rfl
    rw [same]
    omega
  simp only [putQueue]
  split
  · have woken := workload_wake (s.modifyLine name fun l => { l with queue := q }) name
    omega
  · omega

/-- A task that comes back later is not due now. -/
theorem workload_reschedule (sound : ∀ q, s.queue? name = some q → q.Sound)
    (distinct : s.titles.Nodup) {t : Task ω} (lasts : 0 < t.interval) :
    (s.reschedule name t).1.workload ≤ s.workload + 1 := by
  have back := reschedule_rescheduled sound t
  generalize (s.reschedule name t).1 = s' at back
  cases back with
  | dropped => exact Nat.le_succ _
  | revoked here => exact workload_putQueue distinct here (Nat.le_refl _) false
  | @returned q next here _ again =>
    refine workload_putQueue distinct here ?_ _
    have due := (Task.nextRun?_eq_some again).2.1
    have later : next.isDue s.now = false := by
      rw [Task.isDue, due, decide_eq_false_iff_not]
      omega
    rw [overdue_place, later]
    exact Nat.le_refl _

theorem workload_dispatch (sound : ∀ q, s.queue? name = some q → q.Sound)
    (distinct : s.titles.Nodup) : (s.dispatch name).1.workload ≤ s.workload := by
  have looked := dispatch_looked sound
  generalize (s.dispatch name).1 = s' at looked
  cases looked with
  | missing => exact Nat.le_refl _
  | left =>
    have lines := s.overdue_modifyLoop name (f := fun l => { l with loop := .ended }) fun _ => rfl
    rw [workload_eq, lines]
    exact Nat.le_refl _
  | @slept line q tasks wakeAt here took =>
    have queue : s.queue? name = some line.queue := by rw [queue?, here]; rfl
    have lines := overdue_modifyLine distinct queue
      (f := fun l => { l with queue := q, loop := .blocked wakeAt }) fun _ => rfl
    have taken : line.queue.overdue s.now = q.overdue s.now + tasks.length := by
      have all := (sound _ queue).overdue_takeDue s.now
      rw [took] at all
      exact all
    have total : effort (s.ready ++ (tasks.zipIdx s.dispatched).map fun x => .start name x.2 x.1) +
        4 * (s.modifyLine name fun l => { l with queue := q, loop := .blocked wakeAt }).overdue ≤
          s.workload := by
      rw [effort_append, effort_starts, workload_eq]
      omega
    exact total

/-- Each job takes off more than it adds, if every task that it can bring back is due later. -/
theorem workload_perform (sound : ∀ n q, s.queue? n = some q → q.Sound)
    (distinct : s.titles.Nodup) (plan : Task ω → Execution) {job : Job ω}
    (lasts : ∀ n k t, job.duty = some (n, k, t) → 0 < t.interval) :
    (s.perform plan job).1.workload < weight job + s.workload := by
  have finished (r : Run ω) (lasts : 0 < r.task.interval) :
      (s.finish r).1.workload ≤ s.workload + 1 :=
    workload_reschedule (sound r.queue) distinct lasts
  have expired (r : Run ω) (lasts : 0 < r.task.interval) :
      (s.expire r).1.workload ≤ s.workload + 2 := by
    let told : Scheduler ω := { s with ready := s.ready ++ [.release r] }
    have grown : told.workload = s.workload + 1 := by
      have jobs : effort told.ready = effort s.ready + 1 := effort_append _ _
      rw [workload_eq, workload_eq, jobs]
      have lines : told.overdue = s.overdue := rfl
      omega
    have back : (told.reschedule r.queue r.task).1.workload ≤ told.workload + 1 :=
      workload_reschedule (s := told) (sound r.queue) distinct lasts
    have after : (s.expire r).1 = (told.reschedule r.queue r.task).1 := rfl
    rw [after]
    omega
  cases job with
  | dispatch name =>
    have looked := workload_dispatch (sound name) distinct
    simp only [perform, weight]
    omega
  | retire | release =>
    simp only [perform, weight]
    omega
  | finish r =>
    have ended := finished r (lasts _ _ _ rfl)
    simp only [perform, weight]
    omega
  | expire r =>
    have cut := expired r (lasts _ _ _ rfl)
    simp only [perform, weight]
    omega
  | start name k t =>
    let r : Run ω := { queue := name, ticket := k, task := t, since := s.now, plan := plan t }
    have ended := finished r (lasts name k t rfl)
    have cut := expired r (lasts name k t rfl)
    have launched : (s.launch r).1.workload ≤ s.workload + 2 :=
      launch_induction s r (by omega) cut (Nat.le_add_right _ 2)
    have begun : (s.perform plan (.start name k t)).1 = (s.launch r).1 := rfl
    simp only [begun, weight]
    omega

theorem effort_eraseIdx {jobs : List (Job ω)} {place : Nat} {job : Job ω}
    (found : jobs[place]? = some job) : effort jobs = weight job + effort (jobs.eraseIdx place) := by
  obtain ⟨bound, rfl⟩ := List.getElem?_eq_some_iff.mp found
  have whole : jobs = jobs.take place ++ jobs[place] :: jobs.drop (place + 1) := by
    rw [List.getElem_cons_drop, List.take_append_drop]
  conv => lhs; rw [whole]
  rw [List.eraseIdx_eq_take_drop_succ, effort_append, effort_cons, effort_append]
  omega

/-- A job that is done leaves less to do, whichever it is of those in line. -/
theorem workload_work (sound : ∀ n q, s.queue? n = some q → q.Sound) (distinct : s.titles.Nodup)
    (plan : Task ω → Execution) {place : Nat} {job : Job ω} (found : s.ready[place]? = some job)
    (lasts : ∀ n k t, job.duty = some (n, k, t) → 0 < t.interval) :
    (({ s with ready := s.ready.eraseIdx place } : Scheduler ω).perform plan job).1.workload <
      s.workload := by
  let popped : Scheduler ω := { s with ready := s.ready.eraseIdx place }
  have sound' : ∀ n q, popped.queue? n = some q → q.Sound := sound
  have less := workload_perform sound' distinct plan lasts
  have whole : s.workload = weight job + popped.workload := by
    rw [workload_eq, effort_eraseIdx found, workload_eq, Nat.add_assoc]
    rfl
  rw [← whole] at less
  exact less

/-- Where every job that is done leaves less to do, all that can run at an instant comes to an
end. -/
theorem settle_idle {P : Scheduler ω → Prop} {plan : Task ω → Execution}
    (next : ∀ {s job rest}, P s → s.ready = job :: rest →
      P (({ s with ready := rest } : Scheduler ω).perform plan job).1 ∧
        (({ s with ready := rest } : Scheduler ω).perform plan job).1.workload < s.workload)
    (holds : P s) : (s.settle plan).1.ready = [] := by
  fun_induction Scheduler.settle plan s with
  | case1 s ready => exact ready
  | case2 s job rest ready done less final ih => exact ih (next holds ready).1
  | case3 s job rest ready done last => exact absurd (next holds ready).2 last

/-- Then so does all that can run at the instants at which the clock stops on its way. -/
theorem rests_of_settles {P : Scheduler ω → Prop} {plan : Task ω → Execution}
    (reach : ∀ {s t}, P s → s.now ≤ t → P (s.reach t))
    (settle : ∀ {s}, P s → P (s.settle plan).1 ∧ (s.settle plan).1.ready = []) (holds : P s)
    {target : Int} (later : s.now ≤ target) :
    s.Rests plan target ∧ (s.advanceTo plan target).1.ready = [] := by
  fun_induction Scheduler.advanceTo plan s target with
  | case1 s stop timer =>
    refine ⟨.last fun t first => ?_, (settle (reach holds later)).2⟩
    rw [timer] at first
    cases first
  | case2 s stop t timer before reached final ih =>
    have on : s.now ≤ t := Int.le_of_lt (now_lt_nextTimer timer)
    obtain ⟨holds', idle⟩ := settle (reach holds on)
    have clock : ((s.reach t).settle plan).1.now ≤ target := by
      rw [settle_now, reach_now]
      exact before
    obtain ⟨rests, last⟩ := ih holds' clock
    exact ⟨.stop timer before idle rests, last⟩
  | case3 s stop t timer after =>
    refine ⟨.last fun t' first => ?_, (settle (reach holds later)).2⟩
    cases timer.symm.trans first
    omega

/-- The task is due again later than it was done. -/
def Lasts (_ : String) (record : ω × Nat) : Prop := 0 < record.2

/-- All that can run at an instant comes to an end. -/
theorem Arises.settle_idle (arises : s.Arises Lasts) (plan : Task ω → Execution) :
    (s.settle plan).1.ready = [] := by
  refine Scheduler.settle_idle (P := Arises Lasts) ?_ arises
  intro s job rest arises ready
  have done := arises.next plan ready
  have lasts : ∀ n k t, job.duty = some (n, k, t) → 0 < t.interval := fun n k t duty =>
    arises.owed (ready ▸ List.mem_cons_self) duty
  obtain ⟨c, reached, _, rfl⟩ := arises
  have found : c.scheduler.ready[0]? = some job := by rw [ready]; rfl
  have less := workload_work (fun _ => reached.sound) reached.distinct plan found lasts
  rw [ready, List.eraseIdx_cons_zero] at less
  exact ⟨done, less⟩

/-- Whatever instants the clock stops at on its way, all that can run there comes to an end. -/
theorem Arises.rests (arises : s.Arises Lasts) (plan : Task ω → Execution) {target : Int}
    (later : s.now ≤ target) :
    s.Rests plan target ∧ (s.advanceTo plan target).1.ready = [] :=
  rests_of_settles (fun arises on => arises.reach on)
    (fun arises => ⟨arises.settle plan, arises.settle_idle plan⟩) arises later

end Scheduler

end Vigil
