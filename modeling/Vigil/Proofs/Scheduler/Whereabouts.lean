import Vigil.Proofs.Scheduler.Attention
import Vigil.Proofs.Scheduler.Course

/-!
# Where a task is

What there is of one task in a scheduler: its entry in the queue, the mark of its id as in flight,
the jobs about its executions that can be done now, and its executions under way. What is done for
other tasks, on the same queue or on another, leaves the whereabouts of this one as they are; a loop
that looks hands the task over if it is due, and an execution that is over gives it back.
-/
namespace Vigil

open Queue

variable {ω : Type}

namespace Queue

/-- The queued task of an id, and whether the id is in flight. -/
def holds (q : Queue ω) (id : String) : Option (Task ω) × Bool :=
  (q.find? id, q.inFlight.contains id)

section

variable {q : Queue ω}

theorem holds_eq {id : String} {x : Option (Task ω) × Bool} (found : q.find? id = x.1)
    (flying : id ∈ q.inFlight ↔ x.2 = true) : q.holds id = x := by
  have marked : q.inFlight.contains id = x.2 :=
    Bool.eq_iff_iff.mpr (Std.ExtTreeSet.mem_iff_contains.symm.trans flying)
  rw [holds, found, marked]

theorem mem_inFlight_iff (q : Queue ω) (id : String) :
    id ∈ q.inFlight ↔ (q.holds id).2 = true := Std.ExtTreeSet.mem_iff_contains

theorem Sound.holds_place (sound : q.Sound) {t : Task ω} (open_ : q.closed = false)
    (free : q.find? t.id = none) (id : String) :
    (q.place t).holds id = if t.id = id then (some t, false) else q.holds id := by
  have finds := (sound.place open_ free).2 id
  have marks := mem_inFlight_place q t id
  split
  next same => exact holds_eq (finds.trans (if_pos same)) (by simp [marks, same])
  next apart =>
    exact holds_eq (finds.trans (if_neg apart)) (by simp [marks, apart, mem_inFlight_iff])

theorem Sound.holds_rekey (sound : q.Sound) {id other : String} {pos : Nat} (due : Int)
    (found : q.heap.position id = some pos) (apart : id ≠ other) :
    (q.rekey pos due).holds other = q.holds other := by
  obtain ⟨_, _, _, finds⟩ := sound.rekey due found
  exact holds_eq ((finds other).trans (if_neg apart)) (mem_inFlight_iff q other)

theorem Sound.holds_take (sound : q.Sound) {t : Task ω} (open_ : q.closed = false)
    (head : q.heap.peek = some t) (id : String) :
    (q.take t).holds id = if t.id = id then (none, true) else q.holds id := by
  have finds := (sound.take open_ head).2.2.2 id
  have marks := mem_inFlight_take q t id
  split
  next same => exact holds_eq (finds.trans (if_pos same)) (by simp [marks, same])
  next apart =>
    exact holds_eq (finds.trans (if_neg apart)) (by simp [marks, apart, mem_inFlight_iff])

theorem Without.holds_eq {r : Queue ω} {id : String} (without : q.Without id r) (other : String) :
    r.holds other = if id = other then (none, false) else q.holds other := by
  have finds := without.finds other
  have marks := without.flying other
  split
  next same => exact Queue.holds_eq (finds.trans (if_pos same)) (by simp [marks, same])
  next apart =>
    exact Queue.holds_eq (finds.trans (if_neg apart)) (by simp [marks, apart, mem_inFlight_iff])

theorem holds_close (q : Queue ω) (id : String) : q.close.1.holds id = (none, false) := by
  obtain ⟨_, _, gone, none_⟩ := close_queue q
  exact holds_eq (gone id) (by simp [none_ id])

theorem holds_empty (id : String) : ({} : Queue ω).holds id = (none, false) := by
  simp [holds, find?, Heap.position]

theorem Sound.holds_push (sound : q.Sound) {t : Task ω} {id : String} (apart : t.id ≠ id) :
    (q.after (.push t)).holds id = q.holds id := by
  simp only [after]
  cases success : q.push t with
  | error => rfl
  | ok e =>
    obtain ⟨open_, free, rfl⟩ := push_ok sound success
    exact (sound.holds_place open_ free id).trans (if_neg apart)

theorem Sound.holds_upsert (sound : q.Sound) {t : Task ω} {id : String} (apart : t.id ≠ id) :
    (q.after (.upsert t)).holds id = q.holds id := by
  simp only [after]
  cases success : q.upsert t with
  | error => rfl
  | ok e =>
    obtain ⟨open_, ⟨free, rfl⟩ | ⟨pos, found, rfl⟩⟩ := upsert_ok sound success
    · exact (sound.holds_place open_ free id).trans (if_neg apart)
    · exact sound.holds_rekey t.due found apart

/-- Taking all that is due takes a task exactly if it is due. -/
theorem Sound.holds_takeDue (sound : q.Sound) {now : Int} {r : Queue ω} {tasks : List (Task ω)}
    {wakeAt : Option Int} (took : q.takeDue now = (r, tasks, some wakeAt)) (id : String) :
    r.holds id = q.holds id ∧ tasks.filter (·.id == id) = [] ∨
      ∃ t, q.find? id = some t ∧ t.due ≤ now ∧ r.holds id = (none, true) ∧
        tasks.filter (·.id == id) = [t] := by
  fun_induction Queue.takeDue q now generalizing tasks with
  | case1 q looked => cases took
  | case2 q last looked =>
    cases took
    exact .inl ⟨rfl, rfl⟩
  | case3 q t rest looked after tasks' last eq ih =>
    cases took
    obtain ⟨open_, head, due, rfl⟩ := glance_taken sound looked
    obtain ⟨_, sound', there, _⟩ := sound.take open_ head
    have first := sound.holds_take open_ head id
    rcases ih sound' eq with ⟨same, others⟩ | ⟨u, found, due', gone, others⟩
    · by_cases named : t.id = id
      · subst named
        rw [if_pos rfl] at first
        exact .inr ⟨t, there, due, same.trans first, by simp [others]⟩
      · rw [if_neg named] at first
        exact .inl ⟨same.trans first, by simp [named, others]⟩
    · by_cases named : t.id = id
      · rw [if_pos named] at first
        rw [(Prod.mk.inj first).1] at found
        cases found
      · rw [if_neg named] at first
        rw [(Prod.mk.inj first).1] at found
        exact .inr ⟨u, found, due', gone, by simp [named, others]⟩

end

end Queue

namespace Scheduler

/-- Whether a call about a queue leaves the task of this id alone: it does not name it, and the
queue stays open. -/
def Call.spares (id : String) : Call ω → Bool
  | .addQueue => true
  | .removeQueue | .closeQueue => false
  | .register task | .update task | .push task => task.id != id
  | .remove other => other != id

theorem holds_run_asks {q : Queue ω} (sound : q.Sound) {call : Call ω} {id : String}
    (spared : call.spares id = true) : (q.run call.asks).holds id = q.holds id := by
  cases call with
  | addQueue => rfl
  | removeQueue | closeQueue => cases spared
  | register t => exact sound.holds_upsert (by simpa [Call.spares] using spared)
  | update t =>
    have apart : t.id ≠ id := by simpa [Call.spares] using spared
    have without := sound.remove t.id
    exact (without.sound.holds_push apart).trans ((without.holds_eq id).trans (if_neg apart))
  | remove other =>
    exact ((sound.remove other).holds_eq id).trans (if_neg (by simpa [Call.spares] using spared))
  | push t => exact sound.holds_push (by simpa [Call.spares] using spared)

/-! ### The whereabouts of a task -/

/-- What there is of a task. -/
@[ext]
structure Whereabouts (ω : Type) where
  /-- Its entry in the queue, and whether its id is in flight. -/
  held : Option (Task ω) × Bool := (none, false)
  /-- What can be done now about its executions. -/
  jobs : List (Job ω) := []
  /-- Its executions under way. -/
  runs : List (Run ω) := []

def whereabouts (s : Scheduler ω) (name id : String) : Whereabouts ω where
  held := ((s.queue? name).map (·.holds id)).getD (none, false)
  jobs := s.ready.filter (·.concerns name id)
  runs := s.running.filter (·.concerns name id)

variable {s s' : Scheduler ω} {name id : String}

theorem held_of_queue? {q : Queue ω} (here : s.queue? name = some q) :
    (s.whereabouts name id).held = q.holds id := by
  simp only [whereabouts, here, Option.map_some, Option.getD_some]

theorem whereabouts_wake (s : Scheduler ω) (other : String) :
    (s.wake other).whereabouts name id = s.whereabouts name id := by
  have queues : (s.wake other).queue? = s.queue? :=
    congrArg Books.queue? (wake_books s other fun _ => [])
  refine Whereabouts.ext (by simp only [whereabouts, queues]) ?_ ?_
  · rcases wake_cases s other with ⟨same, _⟩ | ⟨_, _, _, _, woken⟩
    · rw [same]
    · rw [woken]
      simp [whereabouts, List.filter_append, Job.concerns]
  · rcases wake_cases s other with ⟨same, _⟩ | ⟨_, _, _, _, woken⟩
    · rw [same]
    · rw [woken]
      rfl

theorem whereabouts_foldl_wake (names : List String) (s : Scheduler ω) :
    (names.foldl wake s).whereabouts name id = s.whereabouts name id := by
  induction names generalizing s with
  | nil => rfl
  | cons other rest ih => rw [List.foldl_cons, ih, whereabouts_wake]

theorem whereabouts_putQueue {other : String} {old : Queue ω} (here : s.queue? other = some old)
    (q : Queue ω) (wakes : Bool) :
    (s.putQueue other q wakes).whereabouts name id =
      { s.whereabouts name id with
        held := if other = name then q.holds id else (s.whereabouts name id).held } := by
  have queues := queue?_putQueue here q wakes
  have rest : ((s.putQueue other q wakes).whereabouts name id).jobs = (s.whereabouts name id).jobs ∧
      ((s.putQueue other q wakes).whereabouts name id).runs = (s.whereabouts name id).runs := by
    unfold putQueue
    split
    next =>
      rw [whereabouts_wake]
      exact ⟨rfl, rfl⟩
    next => exact ⟨rfl, rfl⟩
  refine Whereabouts.ext ?_ rest.1 rest.2
  simp only [whereabouts, queues]
  split <;> rfl

/-- A queue changes, and not for this task. -/
theorem whereabouts_putQueue_same {other : String} {old : Queue ω}
    (here : s.queue? other = some old) {q : Queue ω} (wakes : Bool)
    (same : other = name → q.holds id = old.holds id) :
    (s.putQueue other q wakes).whereabouts name id = s.whereabouts name id := by
  have held : (if other = name then q.holds id else (s.whereabouts name id).held) =
      (s.whereabouts name id).held := by
    split
    next at_ =>
      subst at_
      rw [same rfl, held_of_queue? here]
    next => rfl
  rw [whereabouts_putQueue here, held]

theorem whereabouts_detach (s : Scheduler ω) (line : Line ω) (name id : String) :
    (s.detach line).whereabouts name id =
      { s.whereabouts name id with
        held := if line.name = name then (none, false) else (s.whereabouts name id).held } := by
  have queues : (s.detach line).queue? =
      fun other => if line.name = other then none else s.queue? other :=
    congrArg Books.queue? (detach_books s line fun _ => [])
  refine Whereabouts.ext ?_ ?_ ?_
  · simp only [whereabouts, queues]
    split <;> rfl
  · exact filter_detach (fun _ _ => ⟨rfl, rfl⟩) s line
  · simp only [whereabouts]
    rw [detach_eq]

/-! ### What is done for others -/

theorem Served.whereabouts {other : String} (sound : ∀ q, s.queue? other = some q → q.Sound)
    {call : Call ω} (served : Served s other call s')
    (spared : other = name → call.spares id = true) :
    s'.whereabouts name id = s.whereabouts name id := by
  cases served with
  | refused => rfl
  | added free =>
    refine Whereabouts.ext ?_ ?_ rfl
    · by_cases at_ : other = name
      · subst at_
        have empty : s.queue? other = none := by rw [queue?, free]; rfl
        have fresh : ({ s with
            lines := s.lines ++ [{ name := other }]
            ready := s.ready ++ [.dispatch other] } : Scheduler ω).queue? other = some {} := by
          unfold line? at free
          simp [queue?, line?, List.find?_append, free]
        rw [held_of_queue? fresh, holds_empty]
        simp only [Scheduler.whereabouts, empty, Option.map_none, Option.getD_none]
      · simp [Scheduler.whereabouts, queue?, line?, List.find?_append, at_]
    · simp [Scheduler.whereabouts, List.filter_append, Job.concerns]
  | @detached line here =>
    have named : line.name = other := by simpa using List.find?_some here
    have apart : line.name ≠ name := by
      intro same
      have spoilt := spared (named.symm.trans same)
      cases spoilt
    rw [whereabouts_detach, if_neg apart]
  | put here heard =>
    exact whereabouts_putQueue_same here _ fun at_ => holds_run_asks (sound _ here) (spared at_)

theorem Rescheduled.whereabouts {other : String} (sound : ∀ q, s.queue? other = some q → q.Sound)
    {t : Task ω} (back : Rescheduled s other t s') (apart : other = name → t.id ≠ id) :
    s'.whereabouts name id = s.whereabouts name id := by
  cases back with
  | dropped => rfl
  | revoked here => exact whereabouts_putQueue_same here _ fun _ => rfl
  | @returned q next here open_ again flying free =>
    have named := (Task.nextRun?_eq_some again).1
    refine whereabouts_putQueue_same here _ fun at_ => ?_
    rw [(sound q here).holds_place open_ (named ▸ free), if_neg (named ▸ apart at_)]

/-- What is seen of the ready line, with and without the job in one place. -/
theorem exists_filter_eraseIdx (p : Job ω → Bool) {jobs : List (Job ω)} {place : Nat} {job : Job ω}
    (found : jobs[place]? = some job) :
    ∃ before after, jobs.filter p = before ++ [job].filter p ++ after ∧
      (jobs.eraseIdx place).filter p = before ++ after := by
  obtain ⟨bound, rfl⟩ := List.getElem?_eq_some_iff.mp found
  have whole : jobs = jobs.take place ++ [jobs[place]] ++ jobs.drop (place + 1) := by
    rw [List.append_assoc, List.singleton_append, List.getElem_cons_drop, List.take_append_drop]
  refine ⟨(jobs.take place).filter p, (jobs.drop (place + 1)).filter p, ?_, ?_⟩
  · conv => lhs; rw [whole]
    rw [List.filter_append, List.filter_append]
  · rw [List.eraseIdx_eq_take_drop_succ, List.filter_append]

theorem whereabouts_eraseIdx {place : Nat} {job : Job ω} (found : s.ready[place]? = some job)
    (other : job.concerns name id = false) :
    ({ s with ready := s.ready.eraseIdx place } : Scheduler ω).whereabouts name id =
      s.whereabouts name id := by
  obtain ⟨before, after, whole, rest⟩ := exists_filter_eraseIdx (·.concerns name id) found
  rw [List.filter_singleton, other, cond_false, List.append_nil] at whole
  exact Whereabouts.ext rfl (rest.trans whole.symm) rfl

/-! ### Hand-overs -/

/-- Either nothing is different for the task, or it was due and is handed over. -/
def Handed (s : Scheduler ω) (name id : String) (s' : Scheduler ω) : Prop :=
  s'.whereabouts name id = s.whereabouts name id ∨
    ∃ t k, (s.whereabouts name id).held.1 = some t ∧ t.due ≤ s.now ∧
      s'.whereabouts name id =
        { s.whereabouts name id with
          held := (none, true)
          jobs := (s.whereabouts name id).jobs ++ [.start name k t] }

/-- The jobs that tasks become, as far as they concern one of them. -/
theorem started_nil {other : String} {tasks : List (Task ω)}
    (others : other = name → tasks.filter (·.id == id) = []) (k : Nat) :
    ((tasks.zipIdx k).map fun (t, k) => Job.start other k t).filter (·.concerns name id) = [] := by
  rw [List.filter_eq_nil_iff]
  intro job member concerned
  obtain ⟨⟨t, n⟩, inside, rfl⟩ := List.mem_map.mp member
  have own : other = name ∧ t.id = id := by simpa [Job.concerns] using concerned
  have named : t ∈ tasks.filter (·.id == id) := 
    List.mem_filter.mpr ⟨List.fst_mem_of_mem_zipIdx inside, by simpa using own.2⟩
  rw [others own.1] at named
  cases named

theorem started_one {tasks : List (Task ω)} {t : Task ω}
    (one : tasks.filter (·.id == id) = [t]) (k : Nat) :
    ∃ n, ((tasks.zipIdx k).map fun (t, k) => Job.start name k t).filter (·.concerns name id) =
      [.start name n t] := by
  have firsts : ((tasks.zipIdx k).filter (·.1.id == id)).map Prod.fst = [t] := by
    rw [← one]
    conv => rhs; rw [← List.zipIdx_map_fst k tasks]
    rw [List.filter_map]
    rfl
  obtain ⟨⟨u, n⟩, single, rfl⟩ := List.map_eq_singleton_iff.mp firsts
  refine ⟨n, ?_⟩
  rw [List.filter_map]
  have same : ((fun job : Job ω => job.concerns name id) ∘ fun (t, k) => Job.start name k t) =
      fun x : Task ω × Nat => x.1.id == id := by
    funext x
    simp [Job.concerns]
  rw [same, single]
  rfl

theorem handed_of_tasks {other : String} {q r : Queue ω} {tasks : List (Task ω)}
    (here : s.queue? other = some q)
    (took : r.holds id = q.holds id ∧ tasks.filter (·.id == id) = [] ∨
      ∃ t, q.find? id = some t ∧ t.due ≤ s.now ∧ r.holds id = (none, true) ∧
        tasks.filter (·.id == id) = [t])
    (queues : s'.queue? = fun n => if other = n then some r else s.queue? n)
    (ready : s'.ready = s.ready ++ (tasks.zipIdx s.dispatched).map fun (t, k) => .start other k t)
    (running : s'.running = s.running) : Handed s name id s' := by
  have jobs : (s'.whereabouts name id).jobs = (s.whereabouts name id).jobs ++
      ((tasks.zipIdx s.dispatched).map fun (t, k) => Job.start other k t).filter
        (·.concerns name id) := by
    simp only [whereabouts, ready, List.filter_append]
  have runs : (s'.whereabouts name id).runs = (s.whereabouts name id).runs := by
    simp only [whereabouts, running]
  by_cases at_ : other = name
  · subst at_
    have there : s'.queue? other = some r := by rw [queues]; exact if_pos rfl
    rcases took with ⟨same, none_⟩ | ⟨t, found, due, gone, one⟩
    · left
      refine Whereabouts.ext ?_ ?_ runs
      · rw [held_of_queue? there, held_of_queue? here, same]
      · rw [jobs, started_nil (fun _ => none_), List.append_nil]
    · right
      obtain ⟨n, single⟩ : ∃ n, ((tasks.zipIdx s.dispatched).map
          fun (t, k) => Job.start other k t).filter (·.concerns other id) = [.start other n t] :=
        started_one one s.dispatched
      refine ⟨t, n, ?_, due, Whereabouts.ext ?_ ?_ runs⟩
      · rw [held_of_queue? here]
        exact found
      · rw [held_of_queue? there, gone]
      · rw [jobs, single]
  · left
    refine Whereabouts.ext ?_ ?_ runs
    · simp only [whereabouts, queues, if_neg at_]
    · rw [jobs, started_nil (fun same => absurd same at_), List.append_nil]

theorem Looked.handed {other : String} (sound : ∀ q, s.queue? other = some q → q.Sound)
    (looked : Looked s other s') : Handed s name id s' := by
  cases looked with
  | missing => exact .inl rfl
  | left here =>
    have queues := queue?_modifyLine s other (f := fun l => { l with loop := .ended })
      (fun _ => rfl) (fun _ => rfl)
    exact .inl (Whereabouts.ext (by simp only [whereabouts, queues]) rfl rfl)
  | @slept line q tasks wakeAt here took =>
    have queue : s.queue? other = some line.queue := by rw [queue?, here]; rfl
    have queues := queue?_replaceQueue here
      (f := fun l => { l with queue := q, loop := .blocked wakeAt }) (fun _ => rfl) (fun _ => rfl)
    exact handed_of_tasks queue ((sound _ queue).holds_takeDue took id) queues rfl rfl

theorem handed_takeOne {other : String} (sound : ∀ q, s.queue? other = some q → q.Sound)
    {t : Task ω} (took : s.takeOne? other = some (s', t)) : Handed s name id s' := by
  obtain ⟨line, here, open_, head, due, rfl⟩ := takeOne?_took sound took
  have queue : s.queue? other = some line.queue := by rw [queue?, here]; rfl
  have queues := queue?_replaceQueue here (f := fun l => { l with queue := line.queue.take t })
    (fun _ => rfl) (fun _ => rfl)
  have taken := (sound _ queue).holds_take open_ head id
  have there := ((sound _ queue).take open_ head).2.2.1
  by_cases named : t.id = id
  · subst named
    have one : [t].filter (·.id == t.id) = [t] := by simp
    exact handed_of_tasks queue (.inr ⟨t, there, due, taken.trans (if_pos rfl), one⟩) queues rfl rfl
  · have none_ : [t].filter (·.id == id) = [] := by simp [named]
    exact handed_of_tasks queue (.inl ⟨taken.trans (if_neg named), none_⟩) queues rfl rfl

/-! ### Jobs -/

/-- An execution of another task is over. -/
theorem whereabouts_ended (sound : ∀ n q, s.queue? n = some q → q.Sound) {r : Run ω}
    (other : r.concerns name id = false) :
    (s.finish r).1.whereabouts name id = s.whereabouts name id ∧
      (s.expire r).1.whereabouts name id = s.whereabouts name id := by
  have apart : r.queue = name → r.task.id ≠ id := by simpa [Run.concerns] using other
  let telling : Scheduler ω := { s with ready := s.ready ++ [.release r] }
  have sound' : ∀ q, telling.queue? r.queue = some q → q.Sound := sound r.queue
  have told : telling.whereabouts name id = s.whereabouts name id := by
    refine Whereabouts.ext rfl ?_ rfl
    simp [telling, whereabouts, List.filter_append, Job.concerns]
  exact ⟨(reschedule_rescheduled (sound r.queue) r.task).whereabouts (sound r.queue) apart,
    ((reschedule_rescheduled sound' r.task).whereabouts sound' apart).trans told⟩

/-- A job that is not about the task hands it over at most. -/
theorem handed_perform (sound : ∀ n q, s.queue? n = some q → q.Sound)
    (plan : Task ω → Execution) {job : Job ω} (other : job.concerns name id = false) :
    Handed s name id (s.perform plan job).1 := by
  cases job with
  | dispatch at_ => exact (dispatch_looked (sound at_)).handed (sound at_)
  | retire | release => exact .inl rfl
  | finish r => exact .inl (whereabouts_ended sound other).1
  | expire r => exact .inl (whereabouts_ended sound other).2
  | start at_ ticket t =>
    left
    let r : Run ω := { queue := at_, ticket, task := t, since := s.now, plan := plan t }
    have unlike : r.concerns name id = false := other
    have ended := whereabouts_ended sound unlike
    simp only [Scheduler.perform, start_eq]
    refine launch_induction s r ended.1 ended.2 (Whereabouts.ext rfl rfl ?_)
    simp only [whereabouts, List.filter_append]
    rw [List.filter_singleton, unlike, cond_false, List.append_nil]

/-! ### The clock -/

theorem concerns_overJob (r : Run ω) (limit : Option Nat) :
    (r.overJob limit).concerns name id = r.concerns name id := by
  unfold Run.overJob
  split <;> rfl

/-- Executions that are over by then wait to be concluded. -/
theorem whereabouts_conclude (s : Scheduler ω) (limit : Option Nat) (now : Int) :
    (s.conclude limit now).whereabouts name id =
      { s.whereabouts name id with
        jobs := (s.whereabouts name id).jobs ++
          ((s.whereabouts name id).runs.filter fun r => (r.overAt limit).any (· ≤ now)).map
            (·.overJob limit)
        runs := (s.whereabouts name id).runs.filter
          fun r => !(r.overAt limit).any (· ≤ now) } := by
  have concerned : (fun job : Job ω => job.concerns name id) ∘ (fun r : Run ω => r.overJob limit) =
      fun r : Run ω => r.concerns name id := funext fun r => concerns_overJob r limit
  refine Whereabouts.ext rfl ?_ ?_
  · simp only [whereabouts, conclude, List.filter_append, List.filter_map, concerned,
      List.filter_filter, Bool.and_comm]
  · simp only [whereabouts, conclude, List.filter_filter, Bool.and_comm]

theorem whereabouts_reach (s : Scheduler ω) (now : Int) :
    (s.reach now).whereabouts name id =
      (s.conclude s.config.executionTimeout now).whereabouts name id := by
  rw [reach_eq, whereabouts_conclude, whereabouts_foldl_wake, whereabouts_conclude]
  rfl

/-! ### An id that nobody has registered -/

/-- Only a call that installs a task of an unknown id makes the id known. -/
theorem holds_unborn {q : Queue ω} (here : s.queue? name = some q) (sound : q.Sound)
    (absent : q.holds id = (none, false)) (call : Call ω)
    (unborn : ∀ u, .installed u ∈ s.serving name call → u.id ≠ id) :
    (q.run call.asks).holds id = (none, false) := by
  have free : q.find? id = none := (Prod.mk.inj absent).1
  by_cases spared : call.spares id = true
  · exact (holds_run_asks sound spared).trans absent
  · cases call with
    | addQueue => exact absurd rfl spared
    | removeQueue => exact absent
    | closeQueue => exact holds_close q id
    | register t =>
      have named : t.id = id := by simpa [Call.spares] using spared
      cases success : q.upsert t with
      | error why =>
        have vain : q.run (Call.asks (.register t)) = q := congrArg q.accept success
        rw [vain]
        exact absent
      | ok e =>
        obtain ⟨_, ⟨_, rfl⟩ | ⟨pos, found, rfl⟩⟩ := upsert_ok sound success
        · exact absurd named (unborn t (by simp [serving, registering, here, success]))
        · rw [← named, ← sound.position_eq_none_iff, found] at free
          cases free
    | update t =>
      have named : t.id = id := by simpa [Call.spares] using spared
      have cleared := (sound.remove t.id).holds_eq id
      rw [if_pos named] at cleared
      cases success : (q.remove t.id).1.push t with
      | error why =>
        have vain : q.run (Call.asks (.update t)) = (q.remove t.id).1 :=
          congrArg (q.remove t.id).1.accept success
        rw [vain]
        exact cleared
      | ok e => exact absurd named (unborn t (by simp [serving, updating, here, success]))
    | remove other =>
      have named : other = id := by simpa [Call.spares] using spared
      exact ((sound.remove other).holds_eq id).trans (if_pos named)
    | push t =>
      have named : t.id = id := by simpa [Call.spares] using spared
      cases success : q.push t with
      | error why =>
        have vain : q.run (Call.asks (.push t)) = q := congrArg q.accept success
        rw [vain]
        exact absent
      | ok e => exact absurd named (unborn t (by simp [serving, pushing, here, success]))

theorem Served.absent {other : String} (sound : ∀ q, s.queue? other = some q → q.Sound)
    {call : Call ω} (served : Served s other call s') (absent : s.whereabouts name id = {})
    (unborn : other = name → ∀ u, .installed u ∈ s.serving other call → u.id ≠ id) :
    s'.whereabouts name id = {} := by
  cases served with
  | refused => exact absent
  | added free => exact ((Served.added free).whereabouts sound fun _ => rfl).trans absent
  | detached => simp [whereabouts_detach, absent]
  | put here heard =>
    rw [whereabouts_putQueue here, absent]
    split
    next at_ =>
      subst at_
      have known : (s.whereabouts other id).held = _ := held_of_queue? here
      rw [absent] at known
      rw [holds_unborn here (sound _ here) known.symm call (unborn rfl)]
    next => rfl

theorem Handed.absent (handed : Handed s name id s') (absent : s.whereabouts name id = {}) :
    s'.whereabouts name id = {} := by
  rcases handed with same | ⟨t, _, held, _⟩
  · exact same.trans absent
  · rw [absent] at held
    cases held

end Scheduler

end Vigil
