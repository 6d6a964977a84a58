import Vigil.Proofs.Scheduler.Parts
import Vigil.Proofs.Scheduler.Script

/-!
# What a scheduler is to some of its queues

Within some names a scheduler has their lines, and the jobs and executions of their queues, without
the numbers under which those were handed over. What is done about a queue inside is done within
the names alike (`perform_within`, `serve_within`), what is done about any other is not seen there
(`perform_outside`, `serve_outside`), and the root token and the clock are everybody's.
-/
namespace Vigil

open Queue

variable {ω : Type}

/-- The name of the queue that the job is about. -/
def Job.queue : Job ω → String
  | .dispatch q | .retire q _ | .start q _ _ => q
  | .finish r | .expire r | .release r => r.queue

def Run.unnumbered (r : Run ω) : Run ω := { r with ticket := 0 }

def Job.unnumbered : Job ω → Job ω
  | .start q _ t => .start q 0 t
  | .finish r => .finish r.unnumbered
  | .expire r => .expire r.unnumbered
  | .release r => .release r.unnumbered
  | job => job

/-- The scheduler with the lines of these names only, and what is done for their queues. -/
def Scheduler.within (s : Scheduler ω) (p : String → Bool) : Scheduler ω :=
  { s with
    lines := s.lines.filter (p ·.name)
    ready := (s.ready.filter (p ·.queue)).map .unnumbered
    running := (s.running.filter (p ·.queue)).map .unnumbered
    dispatched := 0 }

@[simp] theorem Job.unnumbered_unnumbered (job : Job ω) :
    job.unnumbered.unnumbered = job.unnumbered := by
  cases job <;> rfl

@[simp] theorem Job.queue_unnumbered (job : Job ω) : job.unnumbered.queue = job.queue := by
  cases job <;> rfl

theorem Job.leave_unnumbered (name : String) (fresh : Bool) (job : Job ω) :
    job.unnumbered.leave name fresh = (job.leave name fresh).unnumbered := by
  cases job with
  | dispatch q =>
    simp only [unnumbered, leave]
    split <;> rfl
  | _ => rfl

theorem Job.queue_leave (name : String) (fresh : Bool) (job : Job ω) :
    (job.leave name fresh).queue = job.queue := by
  cases job with
  | dispatch q =>
    simp only [leave]
    split <;> rfl
  | _ => rfl

namespace Scheduler

variable {p : String → Bool} {s : Scheduler ω} {name : String}

@[simp] theorem within_now (s : Scheduler ω) (p : String → Bool) : (s.within p).now = s.now := rfl

@[simp] theorem within_stopping (s : Scheduler ω) (p : String → Bool) :
    (s.within p).stopping = s.stopping := rfl

@[simp] theorem within_within (s : Scheduler ω) (p : String → Bool) :
    (s.within p).within p = s.within p := by
  simp [within, List.filter_map, Function.comp_def, Run.unnumbered]

/-! ### Lines -/

theorem line?_within (s : Scheduler ω) (p : String → Bool) (name : String) :
    (s.within p).line? name = if p name then s.line? name else none := by
  simp only [line?, within, List.find?_filter]
  split
  next inside =>
    congr 1
    funext l
    by_cases named : l.name = name <;> simp [named, inside]
  next outside =>
    rw [List.find?_eq_none]
    intro l _
    by_cases named : l.name = name <;> simp [named, outside]

theorem queue?_within (s : Scheduler ω) (p : String → Bool) (name : String) :
    (s.within p).queue? name = if p name then s.queue? name else none := by
  simp only [queue?, line?_within]
  split <;> rfl

theorem modifyLine_within (s : Scheduler ω) (p : String → Bool) (name : String)
    {f : Line ω → Line ω} (keeps : ∀ l, (f l).name = l.name) :
    (s.modifyLine name f).within p = (s.within p).modifyLine name f := by
  have named : ∀ l, (if l.name == name then f l else l).name = l.name := by
    intro l
    split <;> simp [keeps]
  simp only [within, modifyLine, List.filter_map, Function.comp_def, named]

theorem modifyLine_missing (missing : s.line? name = none) (f : Line ω → Line ω) :
    s.modifyLine name f = s := by
  have others : s.lines.map (fun l => if l.name == name then f l else l) = s.lines := by
    have same : ∀ l ∈ s.lines, (if l.name == name then f l else l) = id l := fun l member =>
      if_neg (List.find?_eq_none.mp missing l member)
    rw [List.map_congr_left same, List.map_id]
  simp only [modifyLine, others]

/-- A line is changed and jobs of its queue get in line. -/
theorem touch_within (s : Scheduler ω) (p : String → Bool) (name : String) {f : Line ω → Line ω}
    (keeps : ∀ l, (f l).name = l.name) (jobs : List (Job ω))
    (about : ∀ job ∈ jobs, job.queue = name) (number : Nat) :
    ({ s.modifyLine name f with ready := s.ready ++ jobs, dispatched := number } :
        Scheduler ω).within p =
      if p name then
        { (s.within p).modifyLine name f with
          ready := (s.within p).ready ++ jobs.map Job.unnumbered }
      else s.within p := by
  have lines := congrArg Scheduler.lines (s.modifyLine_within p name keeps)
  have jobs' : ({ s.modifyLine name f with ready := s.ready ++ jobs, dispatched := number } :
      Scheduler ω).within p = { (s.within p).modifyLine name f with
        ready := (s.within p).ready ++ (jobs.filter (p ·.queue)).map Job.unnumbered } := by
    rw [← modifyLine_within s p name keeps]
    simp [within, modifyLine]
  rw [jobs']
  split
  next inside =>
    rw [List.filter_eq_self.mpr fun job member => by rw [about job member, inside]]
  next outside =>
    rw [List.filter_eq_nil_iff.mpr fun job member => by rw [about job member]; exact outside]
    have missing : (s.within p).line? name = none := by rw [line?_within, if_neg outside]
    rw [modifyLine_missing missing, List.map_nil, List.append_nil]

theorem wake_within (s : Scheduler ω) (p : String → Bool) (name : String) :
    (s.wake name).within p = (s.within p).wake name := by
  have touched := s.touch_within p name (f := fun l => { l with loop := .runnable }) (fun _ => rfl)
    [.dispatch name] (List.forall_mem_singleton.mpr rfl) s.dispatched
  simp only [wake, line?_within]
  by_cases inside : p name = true
  · rw [if_pos inside] at touched ⊢
    split
    · exact touched
    · rfl
  · rw [if_neg inside] at touched ⊢
    split
    · exact touched
    · rfl

theorem foldl_wake_within (names : List String) (s : Scheduler ω) (p : String → Bool) :
    (names.foldl wake s).within p = names.foldl wake (s.within p) := by
  induction names generalizing s with
  | nil => rfl
  | cons name rest ih => rw [List.foldl_cons, ih, wake_within, List.foldl_cons]

theorem putQueue_within (s : Scheduler ω) (p : String → Bool) (name : String) (q : Queue ω)
    (wakes : Bool) : (s.putQueue name q wakes).within p = (s.within p).putQueue name q wakes := by
  have put := s.modifyLine_within p name (f := fun l => { l with queue := q }) fun _ => rfl
  simp only [putQueue]
  split
  · rw [wake_within, put]
  · exact put

/-! ### Queues outside are missing -/

theorem line?_outside (outside : p name = false) : (s.within p).line? name = none := by
  rw [line?_within, outside]
  rfl

theorem wake_missing (missing : s.line? name = none) : s.wake name = s := by
  simp only [wake, missing]

theorem putQueue_missing (missing : s.line? name = none) (q : Queue ω) (wakes : Bool) :
    s.putQueue name q wakes = s := by
  simp only [putQueue, modifyLine_missing missing, wake_missing missing, ite_self]

theorem putQueue_outside (outside : p name = false) (q : Queue ω) (wakes : Bool) :
    (s.putQueue name q wakes).within p = s.within p := by
  rw [putQueue_within, putQueue_missing (line?_outside outside)]

/-- Names outside are passed by. -/
theorem foldl_wake_filter (names : List String) (s : Scheduler ω) (p : String → Bool) :
    names.foldl wake (s.within p) = (names.filter p).foldl wake (s.within p) := by
  induction names generalizing s with
  | nil => rfl
  | cons name rest ih =>
    cases inside : p name with
    | true =>
      rw [List.filter_cons_of_pos inside, List.foldl_cons, List.foldl_cons, ← wake_within, ih]
    | false =>
      rw [List.filter_cons_of_neg (by simp [inside]), List.foldl_cons,
        wake_missing (line?_outside inside), ih]

/-! ### The root token and the clock -/

theorem cancel_within (s : Scheduler ω) (p : String → Bool) :
    s.cancel.within p = (s.within p).cancel := by
  have names : (s.within p).lines.reverse.map (·.name) =
      (s.lines.reverse.map (·.name)).filter p := by
    simp [within, List.filter_map, List.filter_reverse, Function.comp_def]
  simp only [cancel, foldl_wake_within, names]
  exact foldl_wake_filter _ { s with stopping := true } p

theorem conclude_within (s : Scheduler ω) (p : String → Bool) (limit : Option Nat) (now : Int) :
    (s.conclude limit now).within p = (s.within p).conclude limit now := by
  have about (r : Run ω) : (r.overJob limit).queue = r.queue := by
    unfold Run.overJob
    split <;> rfl
  have unnumbered (r : Run ω) : (r.overJob limit).unnumbered = r.unnumbered.overJob limit := by
    have same : r.unnumbered.endsInTime limit = r.endsInTime limit := rfl
    simp only [Run.overJob, same]
    split <;> rfl
  have past (r : Run ω) : r.unnumbered.overAt limit = r.overAt limit := rfl
  simp [conclude, within, List.filter_map, Function.comp_def, about, unnumbered, past,
    List.filter_filter, Bool.and_comm]

theorem reach_within (s : Scheduler ω) (p : String → Bool) (now : Int) :
    (s.reach now).within p = (s.within p).reach now := by
  have names : (s.within p).roused now = (s.roused now).filter p := by
    simp only [roused, within, List.filter_map, List.filter_filter, Function.comp_def,
      Bool.and_comm]
  have woken := foldl_wake_filter (s.roused now) { s with now } p
  rw [reach_eq, reach_eq, conclude_within, foldl_wake_within, woken, names]
  rfl

/-! ### Calls of clients -/

theorem detach_within {line : Line ω} (inside : p line.name = true) (s : Scheduler ω) :
    (s.detach line).within p = (s.within p).detach line := by
  have left (fresh : Bool) :
      ((s.ready.map (Job.leave line.name fresh)).filter (p ·.queue)).map Job.unnumbered =
        ((s.ready.filter (p ·.queue)).map Job.unnumbered).map (Job.leave line.name fresh) := by
    simp only [List.filter_map, List.map_map, Function.comp_def, Job.queue_leave,
      Job.leave_unnumbered]
  have lines : (s.lines.filter (·.name != line.name)).filter (p ·.name) =
      (s.lines.filter (p ·.name)).filter (·.name != line.name) := by
    simp only [List.filter_filter, Bool.and_comm]
  simp only [detach_eq, within, lines]
  cases line.loop with
  | ended => rfl
  | fresh => simp only [left]
  | runnable => simp only [left]
  | blocked => simp [Job.queue, Job.unnumbered, inside]

theorem detach_outside {line : Line ω} (outside : p line.name = false) (s : Scheduler ω) :
    (s.detach line).within p = s.within p := by
  have apart {other : String} (inside : p other = true) : other ≠ line.name := by
    rintro rfl
    rw [outside] at inside
    cases inside
  have lines : (s.lines.filter (·.name != line.name)).filter (p ·.name) =
      s.lines.filter (p ·.name) := by
    rw [List.filter_filter]
    refine List.filter_congr fun l _ => ?_
    cases inside : p l.name with
    | false => rfl
    | true => simp [apart inside]
  have left (fresh : Bool) : (s.ready.map (Job.leave line.name fresh)).filter (p ·.queue) =
      s.ready.filter (p ·.queue) := by
    refine filter_map_blind (fun job inside => ?_) (fun job unseen => ?_) s.ready
    · cases job with
      | dispatch q =>
        have other : q ≠ line.name := apart inside
        simp only [Job.leave, beq_eq_false_iff_ne.mpr other, Bool.false_eq_true, ↓reduceIte]
      | _ => rfl
    · rw [Job.queue_leave]
      exact unseen
  simp only [detach_eq, within, lines]
  cases line.loop with
  | ended => rfl
  | fresh => simp only [left]
  | runnable => simp only [left]
  | blocked => simp [Job.queue, outside]

theorem foldl_detach_within (lines : List (Line ω)) (s : Scheduler ω) (p : String → Bool) :
    (lines.foldl detach s).within p = (lines.filter (p ·.name)).foldl detach (s.within p) := by
  induction lines generalizing s with
  | nil => rfl
  | cons line rest ih =>
    rw [List.foldl_cons, ih, List.filter_cons]
    cases inside : p line.name with
    | true => rw [detach_within inside, if_pos rfl, List.foldl_cons]
    | false => rw [detach_outside inside, if_neg Bool.false_ne_true]

theorem shutdown_within (s : Scheduler ω) (p : String → Bool) :
    s.shutdown.scheduler.within p = (s.within p).shutdown.scheduler := by
  simp only [shutdown, ← cancel_within]
  exact foldl_detach_within s.cancel.lines s.cancel p

/-- A call about a queue inside is the same call within the names. -/
theorem serve_within (inside : p name = true) (s : Scheduler ω) (call : Call ω) :
    (s.within p).serve name call = (s.serve name call).within p ∧
      (s.within p).answer name call = s.answer name call ∧
        (s.within p).reports name call = s.reports name call := by
  have line : (s.within p).line? name = s.line? name := by rw [line?_within, if_pos inside]
  have queue : (s.within p).queue? name = s.queue? name := by rw [queue?_within, if_pos inside]
  cases call with
  | addQueue =>
    simp only [serve, answer, reports, addQueue, line]
    split
    · exact ⟨rfl, rfl, rfl⟩
    · exact ⟨by simp [within, inside, Job.queue, Job.unnumbered], rfl, rfl⟩
  | removeQueue =>
    simp only [serve, answer, reports, removeQueue, line]
    split
    · exact ⟨rfl, rfl, rfl⟩
    next found here =>
      have named : found.name = name := by simpa using List.find?_some here
      exact ⟨(detach_within (named ▸ inside) s).symm, rfl, rfl⟩
  | closeQueue =>
    simp only [serve, answer, reports, closeQueue, queue, ← putQueue_within]
    split <;> exact ⟨rfl, rfl, rfl⟩
  | register t =>
    simp only [serve, answer, reports, register, queue, ← putQueue_within]
    split
    · exact ⟨rfl, rfl, rfl⟩
    · split <;> exact ⟨rfl, rfl, rfl⟩
  | update t =>
    simp only [serve, answer, reports, update, queue, ← putQueue_within]
    split
    · exact ⟨rfl, rfl, rfl⟩
    · split <;> exact ⟨rfl, rfl, rfl⟩
  | remove id =>
    simp only [serve, answer, reports, remove, queue, ← putQueue_within]
    split <;> exact ⟨rfl, trivial, rfl⟩
  | push t =>
    have same : (s.within p).pushed name t = s.pushed name t := by simp only [pushed, queue]
    simp only [serve, answer, reports, push, same, queue, ← putQueue_within, and_self, and_true]
    split
    · rfl
    · split <;> rfl

theorem serve_outside (outside : p name = false) (s : Scheduler ω) (call : Call ω) :
    (s.serve name call).within p = s.within p := by
  cases call with
  | addQueue =>
    simp only [serve, addQueue]
    split
    · rfl
    · simp [within, outside, Job.queue]
  | removeQueue =>
    simp only [serve, removeQueue]
    split
    · rfl
    next found here =>
      have named : found.name = name := by simpa using List.find?_some here
      exact detach_outside (named ▸ outside) s
  | closeQueue =>
    simp only [serve, closeQueue]
    split
    · rfl
    · exact putQueue_outside outside _ _
  | register t =>
    simp only [serve, register]
    split
    · rfl
    · split
      · rfl
      · exact putQueue_outside outside _ _
  | update t =>
    simp only [serve, update]
    split
    · rfl
    · split <;> exact putQueue_outside outside _ _
  | remove id =>
    simp only [serve, remove]
    split
    · rfl
    · exact putQueue_outside outside _ _
  | push t =>
    simp only [serve, push]
    split
    · rfl
    · split
      · rfl
      · exact putQueue_outside outside _ _

/-! ### Jobs -/

/-- What a step makes of the scheduler within the names is what it makes of the scheduler. -/
def Reflects (p : String → Bool) (x y : Scheduler ω × List (Event ω)) : Prop :=
  y.1.within p = x.1.within p ∧ y.2 = x.2

theorem starts_unnumbered (name : String) (tasks : List (Task ω)) (first : Nat) :
    ((tasks.zipIdx first).map fun x => Job.start name x.2 x.1).map Job.unnumbered =
      tasks.map (.start name 0) := by
  have blind : ((tasks.zipIdx first).map fun x => Job.start name x.2 x.1).map Job.unnumbered =
      ((tasks.zipIdx first).map Prod.fst).map (.start name 0) := by
    simp only [List.map_map, Function.comp_def, Job.unnumbered]
  rw [blind, List.zipIdx_map_fst]

theorem queue_starts (name : String) (tasks : List (Task ω)) (first : Nat) :
    ∀ job ∈ (tasks.zipIdx first).map fun x => Job.start name x.2 x.1, job.queue = name := by
  intro job member
  obtain ⟨x, _, rfl⟩ := List.mem_map.mp member
  rfl

theorem dispatch_within (inside : p name = true) (s : Scheduler ω) :
    Reflects p (s.dispatch name) ((s.within p).dispatch name) := by
  have line : (s.within p).line? name = s.line? name := by rw [line?_within, if_pos inside]
  have left := s.modifyLine_within p name (f := fun l => { l with loop := .ended }) fun _ => rfl
  simp only [dispatch, line, within_now, within_stopping, ← left]
  split
  · exact ⟨within_within s p, rfl⟩
  · split
    · exact ⟨within_within _ p, rfl⟩
    · split
      · exact ⟨within_within _ p, rfl⟩
      next q tasks wakeAt took =>
        refine ⟨?_, rfl⟩
        -- the two hand tasks over under different numbers
        have touched (s : Scheduler ω) (first number : Nat) :=
          s.touch_within p name (f := fun l => { l with queue := q, loop := .blocked wakeAt })
            (fun _ => rfl) _ (queue_starts name tasks first) number
        simp only [inside, ↓reduceIte, starts_unnumbered] at touched
        refine (touched (s.within p) _ _).trans (Eq.trans ?_ (touched s _ _).symm)
        rw [within_within]

theorem dispatch_outside (outside : p name = false) (s : Scheduler ω) :
    (s.dispatch name).1.within p = s.within p := by
  simp only [dispatch]
  split
  · rfl
  · have left := s.modifyLine_within p name (f := fun l => { l with loop := .ended }) fun _ => rfl
    rw [modifyLine_missing (line?_outside outside)] at left
    split
    · exact left
    · split
      · exact left
      next q tasks wakeAt took =>
        have touched := s.touch_within p name
          (f := fun l => { l with queue := q, loop := .blocked wakeAt }) (fun _ => rfl) _
          (queue_starts name tasks s.dispatched) (s.dispatched + tasks.length)
        simp only [outside, Bool.false_eq_true, ↓reduceIte] at touched
        exact touched

theorem reschedule_within (inside : p name = true) (s : Scheduler ω) (t : Task ω) :
    (s.within p).reschedule name t =
      ((s.reschedule name t).1.within p, (s.reschedule name t).2) := by
  have queue : (s.within p).queue? name = s.queue? name := by rw [queue?_within, if_pos inside]
  simp only [reschedule, queue, within_now, ← putQueue_within]
  split
  · rfl
  · split
    · rfl
    · split <;> rfl

theorem reschedule_outside (outside : p name = false) (s : Scheduler ω) (t : Task ω) :
    (s.reschedule name t).1.within p = s.within p := by
  simp only [reschedule]
  split
  · rfl
  · split
    · rfl
    · split
      · rfl
      · exact putQueue_outside outside _ _

theorem finish_within (s : Scheduler ω) {r : Run ω} (inside : p r.queue = true) :
    Reflects p (s.finish r) ((s.within p).finish r.unnumbered) := by
  have back := reschedule_within inside s r.task
  have unfolded : (s.within p).finish r.unnumbered =
      (((s.within p).reschedule r.queue r.task).1,
        .ended r.task r.plan.ending :: .notice (.ofEnding r.task.id r.plan.ending) ::
          ((s.within p).reschedule r.queue r.task).2.map .notice) := rfl
  rw [unfolded, back]
  exact ⟨within_within _ p, rfl⟩

theorem expire_within (s : Scheduler ω) {r : Run ω} (inside : p r.queue = true) :
    Reflects p (s.expire r) ((s.within p).expire r.unnumbered) := by
  let told : Scheduler ω := { s with ready := s.ready ++ [.release r] }
  let told' : Scheduler ω := { s.within p with
    ready := (s.within p).ready ++ [.release r.unnumbered] }
  have grown : told' = told.within p := by
    simp [told, told', within, Job.queue, Job.unnumbered, inside]
  have back := reschedule_within inside told r.task
  rw [← grown] at back
  have unfolded : (s.within p).expire r.unnumbered = ((told'.reschedule r.queue r.task).1,
      .dropped r.task :: .notice (.ofTimeout r.task.id (s.config.executionTimeout.getD 0)) ::
        (told'.reschedule r.queue r.task).2.map .notice) := rfl
  rw [unfolded, back]
  exact ⟨within_within _ p, rfl⟩

theorem expire_outside (s : Scheduler ω) {r : Run ω} (outside : p r.queue = false) :
    (s.expire r).1.within p = s.within p := by
  have told : ({ s with ready := s.ready ++ [.release r] } : Scheduler ω).within p =
      s.within p := by
    simp [within, Job.queue, outside]
  exact (reschedule_outside outside _ r.task).trans told

theorem launch_within (s : Scheduler ω) {r : Run ω} (inside : p r.queue = true) :
    Reflects p (s.launch r) ((s.within p).launch r.unnumbered) := by
  have clock : (s.within p).now = s.now ∧ (s.within p).config = s.config ∧
      r.unnumbered.endsAt = r.endsAt ∧ ∀ limit, r.unnumbered.expiresAt limit = r.expiresAt limit :=
    ⟨rfl, rfl, rfl, fun _ => rfl⟩
  simp only [launch, clock]
  split
  · exact s.finish_within inside
  · split
    · exact s.expire_within inside
    · refine ⟨?_, rfl⟩
      simp [within, List.filter_map, Function.comp_def, Run.unnumbered, inside]

theorem launch_outside (s : Scheduler ω) {r : Run ω} (outside : p r.queue = false) :
    (s.launch r).1.within p = s.within p := by
  unfold launch
  split
  · exact reschedule_outside outside s r.task
  · split
    · exact s.expire_outside outside
    · simp [within, outside]

/-- A job for a queue inside is the same job within the names. -/
theorem perform_within (plan : Task ω → Execution) (s : Scheduler ω) {job : Job ω}
    (inside : p job.queue = true) :
    Reflects p (s.perform plan job) ((s.within p).perform plan job.unnumbered) := by
  cases job with
  | dispatch name => exact dispatch_within inside s
  | retire | release => exact ⟨within_within s p, rfl⟩
  | finish r => exact s.finish_within inside
  | expire r => exact s.expire_within inside
  | start name k t =>
    obtain ⟨state, events⟩ := s.launch_within (p := p)
      (r := { queue := name, ticket := k, task := t, since := s.now, plan := plan t }) inside
    exact ⟨state, congrArg (List.cons (Event.started t)) events⟩

theorem perform_outside (plan : Task ω → Execution) (s : Scheduler ω) {job : Job ω}
    (outside : p job.queue = false) : (s.perform plan job).1.within p = s.within p := by
  cases job with
  | dispatch name => exact dispatch_outside outside s
  | retire | release => rfl
  | finish r => exact reschedule_outside outside s r.task
  | expire r => exact s.expire_outside outside
  | start name k t =>
    exact s.launch_outside
      (r := { queue := name, ticket := k, task := t, since := s.now, plan := plan t }) outside

/-- A dispatch loop inside that takes one task does so within the names. -/
theorem takeOne?_within (inside : p name = true) (s : Scheduler ω) :
    ((s.within p).takeOne? name).map (fun x => (x.1.within p, x.2)) =
      (s.takeOne? name).map fun x => (x.1.within p, x.2) := by
  have line : (s.within p).line? name = s.line? name := by rw [line?_within, if_pos inside]
  simp only [takeOne?, line, within_now, within_stopping]
  split
  · rfl
  next found here =>
    by_cases refused : (s.stopping || decide (found.loop = .ended)) = true
    · simp only [refused, ↓reduceIte, Option.map_none]
    · simp only [refused, Bool.false_eq_true, ↓reduceIte]
      cases found.queue.glance s.now with
      | closed | sleep => rfl
      | taken t rest =>
        have touched (s : Scheduler ω) (first number : Nat) :=
          s.touch_within p name (f := fun l => { l with queue := rest }) (fun _ => rfl)
            [.start name first t] (List.forall_mem_singleton.mpr rfl) number
        simp only [inside, ↓reduceIte] at touched
        refine congrArg (fun s' => some (s', t)) ?_
        refine (touched (s.within p) _ _).trans (Eq.trans ?_ (touched s _ _).symm)
        rw [within_within]
        rfl

theorem takeOne?_outside (outside : p name = false) {s s' : Scheduler ω} {t : Task ω}
    (took : s.takeOne? name = some (s', t)) : s'.within p = s.within p := by
  unfold takeOne? at took
  split at took
  · cases took
  · split at took
    · cases took
    · split at took
      next u rest taken =>
        cases took
        have touched := s.touch_within p name (f := fun l => { l with queue := rest })
          (fun _ => rfl) [.start name s.dispatched t]
          (List.forall_mem_singleton.mpr rfl) (s.dispatched + 1)
        simp only [outside, Bool.false_eq_true, ↓reduceIte] at touched
        exact touched
      next => cases took

end Scheduler

end Vigil
