import Vigil.Proofs.Scheduler.Parts
import Vigil.Proofs.Scheduler.Script

/-!
# Outcomes do not influence the schedule

An execution is a length and an ending. Muting makes every ending the same, in the executions under
way, in the jobs that wait for them and in what is told about them. Each function of a scheduler
does to the muted scheduler what it does to the scheduler, so two runs that differ in endings only
are equal once they are muted; and muting touches no queue, no answer and no start.
-/
namespace Vigil

open Queue

variable {ω : Type}

/-- The execution as long as before, with nothing to tell. -/
def Execution.muted (e : Execution) : Execution := { e with ending := .completed }

def Run.muted (r : Run ω) : Run ω := { r with plan := r.plan.muted }

def Job.muted : Job ω → Job ω
  | .finish r => .finish r.muted
  | .expire r => .expire r.muted
  | .release r => .release r.muted
  | job => job

/-- How the execution ended is not told apart. -/
def Notice.muted : Notice → Notice
  | .executed id | .executionFailed id _ | .recovered id _ => .executed id
  | n => n

def Event.muted : Event ω → Event ω
  | .notice n => .notice n.muted
  | .ended t _ => .ended t .completed
  | e => e

def Scheduler.muted (s : Scheduler ω) : Scheduler ω :=
  { s with ready := s.ready.map Job.muted, running := s.running.map Run.muted }

theorem Job.leave_muted (name : String) (fresh : Bool) (job : Job ω) :
    job.muted.leave name fresh = (job.leave name fresh).muted := by
  cases job with
  | dispatch q =>
    simp only [muted, leave]
    split <;> rfl
  | _ => rfl

namespace Scheduler

def Reply.muted {α : Type} (r : Reply ω α) : Reply ω α := { r with scheduler := r.scheduler.muted }

/-- What a step makes of a muted scheduler is what it makes of the scheduler, muted. -/
def Mutes (x y : Scheduler ω × List (Event ω)) : Prop :=
  y.1 = x.1.muted ∧ y.2.map Event.muted = x.2.map Event.muted

/-! ### What clients do -/

@[simp] theorem queue?_muted (s : Scheduler ω) (name : String) :
    s.muted.queue? name = s.queue? name := rfl

@[simp] theorem line?_muted (s : Scheduler ω) (name : String) :
    s.muted.line? name = s.line? name := rfl

@[simp] theorem wake_muted (s : Scheduler ω) (name : String) :
    s.muted.wake name = (s.wake name).muted := by
  simp only [wake, line?_muted]
  split
  · simp [muted, modifyLine, Job.muted]
  · rfl

theorem foldl_wake_muted (names : List String) (s : Scheduler ω) :
    names.foldl wake s.muted = (names.foldl wake s).muted := by
  induction names generalizing s with
  | nil => rfl
  | cons name rest ih => rw [List.foldl_cons, wake_muted, ih, List.foldl_cons]

@[simp] theorem putQueue_muted (s : Scheduler ω) (name : String) (q : Queue ω) (wakes : Bool) :
    s.muted.putQueue name q wakes = (s.putQueue name q wakes).muted := by
  have placed : s.muted.modifyLine name (fun l => { l with queue := q }) =
      (s.modifyLine name fun l => { l with queue := q }).muted := rfl
  simp only [putQueue, placed, wake_muted]
  split <;> rfl

@[simp] theorem detach_muted (s : Scheduler ω) (line : Line ω) :
    s.muted.detach line = (s.detach line).muted := by
  have renamed : ∀ fresh, s.muted.ready.map (Job.leave line.name fresh) =
      (s.ready.map (Job.leave line.name fresh)).map Job.muted := by
    intro fresh
    simp only [muted, List.map_map, Function.comp_def, Job.leave_muted]
  let left (ready : List (Job ω)) : Scheduler ω :=
    { s.muted with lines := s.lines.filter (·.name != line.name), ready }
  simp only [detach]
  cases line.loop with
  | ended => rfl
  | fresh => exact congrArg left (renamed true)
  | runnable => exact congrArg left (renamed false)
  | blocked wakeAt => simp [muted, Job.muted]

theorem foldl_detach_muted (lines : List (Line ω)) (s : Scheduler ω) :
    lines.foldl detach s.muted = (lines.foldl detach s).muted := by
  induction lines generalizing s with
  | nil => rfl
  | cons line rest ih => rw [List.foldl_cons, detach_muted, ih, List.foldl_cons]

theorem addQueue_muted (s : Scheduler ω) (name : String) :
    s.muted.addQueue name = (s.addQueue name).muted := by
  have grown : s.muted.ready ++ [Job.dispatch name] =
      (s.ready ++ [Job.dispatch name]).map Job.muted := by simp [muted, Job.muted]
  simp only [addQueue, line?_muted, grown]
  cases s.line? name <;> rfl

theorem removeQueue_muted (s : Scheduler ω) (name : String) :
    s.muted.removeQueue name = (s.removeQueue name).muted := by
  simp only [removeQueue, line?_muted, detach_muted]
  cases s.line? name <;> rfl

theorem closeQueue_muted (s : Scheduler ω) (name : String) :
    s.muted.closeQueue name = (s.closeQueue name).muted := by
  simp only [closeQueue, queue?_muted, putQueue_muted]
  cases s.queue? name <;> rfl

theorem register_muted (s : Scheduler ω) (name : String) (t : Task ω) :
    s.muted.register name t = (s.register name t).muted := by
  simp only [register, queue?_muted, putQueue_muted]
  cases s.queue? name with
  | none => rfl
  | some q =>
    simp only
    cases q.upsert t <;> rfl

theorem update_muted (s : Scheduler ω) (name : String) (t : Task ω) :
    s.muted.update name t = (s.update name t).muted := by
  simp only [update, queue?_muted, putQueue_muted]
  cases s.queue? name with
  | none => rfl
  | some q =>
    simp only
    cases (q.remove t.id).1.push t <;> rfl

theorem remove_muted (s : Scheduler ω) (name id : String) :
    s.muted.remove name id = (s.remove name id).muted := by
  simp only [remove, queue?_muted, putQueue_muted]
  cases s.queue? name <;> rfl

theorem push_muted (s : Scheduler ω) (name : String) (t : Task ω) :
    s.muted.push name t = (s.push name t).muted := by
  simp only [push, queue?_muted, putQueue_muted]
  cases s.queue? name with
  | none => rfl
  | some q =>
    simp only
    cases q.push t <;> rfl

theorem serve_muted (s : Scheduler ω) (name : String) (call : Call ω) :
    s.muted.serve name call = (s.serve name call).muted := by
  cases call with
  | addQueue => simp only [serve, addQueue_muted, Reply.muted]
  | removeQueue => simp only [serve, removeQueue_muted, Reply.muted]
  | closeQueue => simp only [serve, closeQueue_muted, Reply.muted]
  | register t => simp only [serve, register_muted, Reply.muted]
  | update t => simp only [serve, update_muted, Reply.muted]
  | remove id => simp only [serve, remove_muted, Reply.muted]
  | push t => exact s.push_muted name t

theorem answer_muted (s : Scheduler ω) (name : String) (call : Call ω) :
    s.muted.answer name call = s.answer name call := by
  cases call with
  | addQueue => simp only [answer, addQueue_muted, Reply.muted]
  | removeQueue => simp only [answer, removeQueue_muted, Reply.muted]
  | closeQueue => simp only [answer, closeQueue_muted, Reply.muted]
  | register t => simp only [answer, register_muted, Reply.muted]
  | update t => simp only [answer, update_muted, Reply.muted]
  | remove id | push t => rfl

theorem reports_muted (s : Scheduler ω) (name : String) (call : Call ω) :
    s.muted.reports name call = s.reports name call := by
  cases call with
  | addQueue => simp only [reports, addQueue_muted, Reply.muted]
  | removeQueue => simp only [reports, removeQueue_muted, Reply.muted]
  | closeQueue => simp only [reports, closeQueue_muted, Reply.muted]
  | register t => simp only [reports, register_muted, Reply.muted]
  | update t => simp only [reports, update_muted, Reply.muted]
  | remove id => simp only [reports, remove_muted, Reply.muted]
  | push t => rfl

theorem cancel_muted (s : Scheduler ω) : s.muted.cancel = s.cancel.muted :=
  foldl_wake_muted _ { s with stopping := true }

theorem shutdown_muted (s : Scheduler ω) : s.muted.shutdown = s.shutdown.muted := by
  have gone := foldl_detach_muted s.cancel.lines s.cancel
  simp only [shutdown, cancel_muted, Reply.muted]
  exact congrArg (fun s' => ({ scheduler := s', answer := (), notices := _ } : Reply ω Unit)) gone

/-! ### What jobs do -/

theorem dispatch_muted (s : Scheduler ω) (name : String) :
    s.muted.dispatch name = ((s.dispatch name).1.muted, (s.dispatch name).2) := by
  have clock : s.muted.now = s.now := rfl
  have flag : s.muted.stopping = s.stopping := rfl
  simp only [dispatch, line?_muted, clock, flag]
  cases s.line? name with
  | none => rfl
  | some line =>
    simp only
    cases s.stopping with
    | true => rfl
    | false =>
      simp only [Bool.false_eq_true, ↓reduceIte]
      split
      · rfl
      next q tasks wakeAt taken =>
        simp [muted, modifyLine, Job.muted, Function.comp_def]

theorem reschedule_muted (s : Scheduler ω) (name : String) (t : Task ω) :
    s.muted.reschedule name t = ((s.reschedule name t).1.muted, (s.reschedule name t).2) := by
  have clock : s.muted.now = s.now := rfl
  simp only [reschedule, queue?_muted, clock, putQueue_muted]
  cases t.nextRun? s.now with
  | none => rfl
  | some next =>
    simp only
    cases s.queue? name with
    | none => rfl
    | some q =>
      simp only
      cases q.requeue next <;> rfl

theorem muted_ofEnding (id : String) (e : Ending) :
    (Notice.ofEnding id e).muted = .executed id := by
  cases e <;> rfl

theorem finish_muted (s : Scheduler ω) (r : Run ω) :
    Mutes (s.finish r) (s.muted.finish r.muted) := by
  have same := s.reschedule_muted r.queue r.task
  have unfolded : s.muted.finish r.muted =
      ((s.muted.reschedule r.queue r.task).1,
        .ended r.task .completed :: .notice (.executed r.task.id) ::
          (s.muted.reschedule r.queue r.task).2.map .notice) := rfl
  rw [unfolded, same]
  refine ⟨rfl, ?_⟩
  simp only [finish, List.map_cons, Event.muted, muted_ofEnding]
  rfl

theorem expire_muted (s : Scheduler ω) (r : Run ω) :
    Mutes (s.expire r) (s.muted.expire r.muted) := by
  let told : Scheduler ω := { s with ready := s.ready ++ [.release r] }
  let told' : Scheduler ω := { s.muted with ready := s.muted.ready ++ [.release r.muted] }
  have grown : told' = told.muted := by simp [told, told', muted, Job.muted]
  have same := told.reschedule_muted r.queue r.task
  rw [← grown] at same
  refine ⟨congrArg Prod.fst same, ?_⟩
  have unfolded : (s.muted.expire r.muted).2 = .dropped r.task ::
      .notice (.ofTimeout r.task.id (s.config.executionTimeout.getD 0)) ::
        (told'.reschedule r.queue r.task).2.map .notice := rfl
  rw [unfolded, same]
  rfl

theorem launch_muted (s : Scheduler ω) (r : Run ω) :
    Mutes (s.launch r) (s.muted.launch r.muted) := by
  have clock : s.muted.now = s.now ∧ s.muted.config = s.config ∧ r.muted.endsAt = r.endsAt ∧
      ∀ limit, r.muted.expiresAt limit = r.expiresAt limit := ⟨rfl, rfl, rfl, fun _ => rfl⟩
  simp only [launch, clock]
  split
  · exact s.finish_muted r
  · split
    · exact s.expire_muted r
    · exact ⟨by simp [muted], rfl⟩

theorem start_muted (plan : Task ω → Execution) (s : Scheduler ω) (name : String) (ticket : Nat)
    (t : Task ω) :
    Mutes (s.start plan name ticket t)
      (s.muted.start (fun t => (plan t).muted) name ticket t) := by
  obtain ⟨state, events⟩ :=
    s.launch_muted { queue := name, ticket, task := t, since := s.now, plan := plan t }
  rw [start_eq, start_eq]
  exact ⟨state, congrArg (List.cons (Event.started t)) events⟩

theorem perform_muted (plan : Task ω → Execution) (s : Scheduler ω) (job : Job ω) :
    Mutes (s.perform plan job) (s.muted.perform (fun t => (plan t).muted) job.muted) := by
  cases job with
  | dispatch name =>
    have same := s.dispatch_muted name
    exact ⟨congrArg Prod.fst same, congrArg (List.map Event.muted ·.2) same⟩
  | retire name fresh => exact ⟨rfl, rfl⟩
  | start name ticket t => exact start_muted plan s name ticket t
  | finish r => exact s.finish_muted r
  | expire r => exact s.expire_muted r
  | release r => exact ⟨rfl, rfl⟩

/-! ### The clock -/

theorem workload_muted (s : Scheduler ω) : s.muted.workload = s.workload := by
  have weights : ∀ job : Job ω, weight job.muted = weight job := by
    intro job
    cases job <;> rfl
  simp only [workload, muted, List.foldr_map, weights]

theorem settle_muted (plan : Task ω → Execution) (s : Scheduler ω) :
    Mutes (s.settle plan) (s.muted.settle fun t => (plan t).muted) := by
  fun_induction Scheduler.settle plan s with
  | case1 s ready =>
    have none_ : s.muted.ready = [] := by simp [muted, ready]
    rw [settle]
    simp only [none_]
    exact ⟨rfl, rfl⟩
  | case2 s job rest ready next less final ih =>
    have first : s.muted.ready = job.muted :: rest.map Job.muted := by simp [muted, ready]
    obtain ⟨state, events⟩ := perform_muted plan { s with ready := rest } job
    have popped : ({ s.muted with ready := rest.map Job.muted } : Scheduler ω) =
        ({ s with ready := rest } : Scheduler ω).muted := rfl
    rw [settle]
    simp only [first, popped]
    rw [state, workload_muted, workload_muted, if_pos less]
    refine ⟨ih.1, ?_⟩
    simp only [List.map_append]
    rw [events, ih.2]
  | case3 s job rest ready next last =>
    have first : s.muted.ready = job.muted :: rest.map Job.muted := by simp [muted, ready]
    obtain ⟨state, events⟩ := perform_muted plan { s with ready := rest } job
    have popped : ({ s.muted with ready := rest.map Job.muted } : Scheduler ω) =
        ({ s with ready := rest } : Scheduler ω).muted := rfl
    rw [settle]
    simp only [first, popped]
    rw [state, workload_muted, workload_muted, if_neg last]
    exact ⟨state, events⟩

theorem nextTimer_muted (s : Scheduler ω) : s.muted.nextTimer = s.nextTimer := by
  simp only [nextTimer, muted, List.filterMap_map]
  rfl

theorem conclude_muted (s : Scheduler ω) (limit : Option Nat) (now : Int) :
    s.muted.conclude limit now = (s.conclude limit now).muted := by
  have jobs : ∀ r : Run ω, r.muted.overJob limit = (r.overJob limit).muted := by
    intro r
    have same : r.muted.endsInTime limit = r.endsInTime limit := rfl
    simp only [Run.overJob, same]
    split <;> rfl
  have past : ∀ r : Run ω, r.muted.overAt limit = r.overAt limit := fun _ => rfl
  simp only [conclude, muted, List.map_append, List.filter_map, List.map_map, Function.comp_def,
    past, jobs]

theorem reach_muted (s : Scheduler ω) (now : Int) : s.muted.reach now = (s.reach now).muted := by
  have woken := foldl_wake_muted (s.roused now) { s with now }
  rw [reach_eq, reach_eq, ← conclude_muted, ← woken]
  rfl

theorem advanceTo_muted (plan : Task ω → Execution) (s : Scheduler ω) (target : Int) :
    (s.muted.advanceTo (fun t => (plan t).muted) target).1 = (s.advanceTo plan target).1.muted ∧
      (s.muted.advanceTo (fun t => (plan t).muted) target).2.map (Prod.map id Event.muted) =
        (s.advanceTo plan target).2.map (Prod.map id Event.muted) := by
  have stop : ∀ (s : Scheduler ω) (t : Int),
      ((s.muted.reach t).settle fun t => (plan t).muted).1 = ((s.reach t).settle plan).1.muted ∧
        (((s.muted.reach t).settle fun t => (plan t).muted).2.map (t, ·)).map
            (Prod.map id Event.muted) =
          (((s.reach t).settle plan).2.map (t, ·)).map (Prod.map id Event.muted) := by
    intro s t
    rw [reach_muted]
    obtain ⟨state, events⟩ := settle_muted plan (s.reach t)
    refine ⟨state, ?_⟩
    have timed : ∀ l : List (Event ω), (l.map (t, ·)).map (Prod.map id Event.muted) =
        (l.map Event.muted).map (t, ·) := by
      intro l
      simp [Function.comp_def]
    rw [timed, timed, events]
  fun_induction Scheduler.advanceTo plan s target with
  | case1 s stop' timer =>
    rw [advanceTo]
    split
    next => exact stop s target
    next t found => rw [nextTimer_muted, timer] at found; cases found
  | case2 s stop' t timer before reached final ih =>
    rw [advanceTo]
    split
    next none_ => rw [nextTimer_muted, timer] at none_; cases none_
    next t' found =>
      rw [nextTimer_muted, timer] at found
      cases found
      obtain ⟨state, events⟩ := stop s t
      simp only [before, ↓reduceIte]
      rw [state]
      refine ⟨ih.1, ?_⟩
      simp only [List.map_append]
      rw [events]
      exact congrArg _ ih.2
  | case3 s stop' t timer after =>
    rw [advanceTo]
    split
    next none_ => rw [nextTimer_muted, timer] at none_; cases none_
    next t' found =>
      rw [nextTimer_muted, timer] at found
      cases found
      simp only [after, ↓reduceIte]
      exact stop s target

/-! ### Scripts -/

/-- The execution of a task that begins, if that is what happens. -/
def start? : Event ω → Option (Task ω)
  | .started t => some t
  | _ => none

/-- What the schedule of a run consists of. -/
structure View (ω : Type) where
  answer : Answer
  /-- The executions that began, with their times. -/
  starts : List (Int × Task ω)
  now : Int
  /-- All queues with what is queued in which order and which ids are in flight, and their loops. -/
  lines : List (Line ω)

namespace Frame

def view (f : Frame ω) : View ω where
  answer := f.answer
  starts := f.events.filterMap fun (t, e) => (start? e).map (t, ·)
  now := f.scheduler.now
  lines := f.scheduler.lines

def muted (f : Frame ω) : Frame ω :=
  { f with events := f.events.map (Prod.map id Event.muted), scheduler := f.scheduler.muted }

theorem view_muted (f : Frame ω) : f.muted.view = f.view := by
  have starts : ∀ e : Event ω, start? e.muted = start? e := by
    intro e
    cases e <;> rfl
  simp only [view, muted, List.filterMap_map, Function.comp_def, Prod.map_fst, Prod.map_snd, id,
    starts]
  rfl

theorem map_view_eq {fs gs : List (Frame ω)} (same : fs.map muted = gs.map muted) :
    fs.map view = gs.map view := by
  have through : ∀ l : List (Frame ω), l.map view = (l.map muted).map view := by
    intro l
    simp only [List.map_map, Function.comp_def, view_muted]
  rw [through fs, same, ← through]

end Frame

theorem muted_muted (s : Scheduler ω) : s.muted.muted = s.muted := by
  have jobs : ∀ job : Job ω, job.muted.muted = job.muted := by
    intro job
    cases job <;> rfl
  have runs : ∀ r : Run ω, r.muted.muted = r.muted := fun _ => rfl
  simp only [muted, List.map_map, Function.comp_def, jobs, runs]

/-- Timed events that are equal once they are muted. -/
theorem timed_muted {es es' : List (Event ω)} (same : es'.map Event.muted = es.map Event.muted)
    (t : Int) :
    (es'.map (t, ·)).map (Prod.map id Event.muted) =
      (es.map (t, ·)).map (Prod.map id Event.muted) := by
  have through : ∀ l : List (Event ω), (l.map (t, ·)).map (Prod.map id Event.muted) =
      (l.map Event.muted).map (t, ·) := by
    intro l
    simp [Function.comp_def]
  rw [through, through, same]

theorem obey_muted (plan : Task ω → Execution) (s : Scheduler ω) (order : Order ω) :
    (s.muted.obey (fun t => (plan t).muted) order).scheduler =
        (s.obey plan order).scheduler.muted ∧
      (s.muted.obey (fun t => (plan t).muted) order).muted = (s.obey plan order).muted := by
  suffices parts : (s.muted.obey (fun t => (plan t).muted) order).scheduler =
        (s.obey plan order).scheduler.muted ∧
      (s.muted.obey (fun t => (plan t).muted) order).answer = (s.obey plan order).answer ∧
        (s.muted.obey (fun t => (plan t).muted) order).events.map (Prod.map id Event.muted) =
          (s.obey plan order).events.map (Prod.map id Event.muted) by
    obtain ⟨state, answer, events⟩ := parts
    refine ⟨state, ?_⟩
    simp only [Frame.muted, state, muted_muted, answer, events]
  have clock : s.muted.now = s.now := rfl
  cases order with
  | call name call =>
    obtain ⟨state, events⟩ := settle_muted plan (s.serve name call)
    simp only [obey, serve_muted, answer_muted, reports_muted, clock]
    refine ⟨state, trivial, timed_muted ?_ s.now⟩
    rw [List.map_append, List.map_append, events]
  | cancel =>
    obtain ⟨state, events⟩ := settle_muted plan s.cancel
    simp only [obey, cancel_muted, clock]
    exact ⟨state, trivial, timed_muted events s.now⟩
  | shutdown =>
    obtain ⟨state, events⟩ := settle_muted plan s.shutdown.scheduler
    simp only [obey, shutdown_muted, Reply.muted, clock]
    refine ⟨state, trivial, timed_muted ?_ s.now⟩
    simp only [List.map_append]
    rw [events]
  | advance duration =>
    obtain ⟨state, events⟩ := advanceTo_muted plan s (s.now + duration)
    exact ⟨state, rfl, events⟩

theorem play_muted (plan : Task ω → Execution) (s : Scheduler ω) (script : List (Order ω)) :
    (s.muted.play (fun t => (plan t).muted) script).map Frame.muted =
      (s.play plan script).map Frame.muted := by
  induction script generalizing s with
  | nil => rfl
  | cons order rest ih =>
    obtain ⟨state, frame⟩ := obey_muted plan s order
    rw [play, play, List.map_cons, List.map_cons, frame, state, ih]

theorem muted_plan_eq {plan plan' : Task ω → Execution}
    (same : ∀ t, (plan t).length = (plan' t).length) :
    (fun t => (plan t).muted) = fun t => (plan' t).muted := by
  funext t
  simp only [Execution.muted, same]

end Scheduler

/-! ### Moves -/

/-- The same move, except that an execution it starts may end in another way. -/
inductive Move.Alike : Move ω → Move ω → Prop where
  | same (move : Move ω) : Alike move move
  | work {plan plan' : Task ω → Execution} (same : ∀ t, (plan t).length = (plan' t).length)
      (place : Nat) : Alike (.work plan place) (.work plan' place)

def Move.muted : Move ω → Move ω
  | .work plan place => .work (fun t => (plan t).muted) place
  | move => move

theorem Move.Alike.muted_eq {move move' : Move ω} (alike : move.Alike move') :
    move.muted = move'.muted := by
  cases alike with
  | same => rfl
  | work same place => simp only [muted, Scheduler.muted_plan_eq same]

namespace Chronicle

def muted (c : Chronicle ω) : Chronicle ω := { c with scheduler := c.scheduler.muted }

end Chronicle

namespace Scheduler

theorem ready_muted (s : Scheduler ω) (place : Nat) :
    s.muted.ready[place]? = (s.ready[place]?).map Job.muted := by
  simp [muted]

theorem eraseReady_muted (s : Scheduler ω) (place : Nat) :
    ({ s.muted with ready := s.muted.ready.eraseIdx place } : Scheduler ω) =
      ({ s with ready := s.ready.eraseIdx place } : Scheduler ω).muted := by
  simp [muted, List.eraseIdx_map]

theorem serving_muted (s : Scheduler ω) (name : String) (call : Call ω) :
    s.muted.serving name call = s.serving name call := by
  cases call with
  | addQueue => simp only [serving, addQueue_muted, Reply.muted]
  | closeQueue => simp only [serving, closeQueue_muted, Reply.muted]
  | _ => rfl

theorem doing_muted (plan : Task ω → Execution) (s : Scheduler ω) (job : Job ω) :
    s.muted.doing (fun t => (plan t).muted) job.muted = s.doing plan job := by
  cases job <;> rfl

theorem takeOne?_muted (s : Scheduler ω) (name : String) :
    s.muted.takeOne? name = (s.takeOne? name).map fun (s', t) => (s'.muted, t) := by
  have clock : s.muted.now = s.now := rfl
  have flag : s.muted.stopping = s.stopping := rfl
  simp only [takeOne?, line?_muted, clock, flag]
  cases s.line? name with
  | none => rfl
  | some line =>
    simp only
    split
    · rfl
    · cases line.queue.glance s.now with
      | taken t rest => simp [muted, modifyLine, Job.muted]
      | _ => rfl

end Scheduler

namespace Chronicle

theorem step_muted (c : Chronicle ω) (move : Move ω) :
    c.muted.step move.muted = (c.step move).muted := by
  cases move with
  | client name call =>
    simp only [step, Move.muted, muted, next, Scheduler.serve_muted, Scheduler.serving_muted]
  | cancel => simp only [step, Move.muted, muted, Scheduler.cancel_muted]
  | shutdown =>
    simp only [step, Move.muted, muted, Scheduler.shutdown_muted, Scheduler.Reply.muted]
  | take name =>
    simp only [step, Move.muted, muted, Scheduler.takeOne?_muted]
    cases c.scheduler.takeOne? name <;> rfl
  | work plan place =>
    simp only [step, Move.muted, muted, Scheduler.ready_muted]
    cases c.scheduler.ready[place]? with
    | none => rfl
    | some job =>
      obtain ⟨state, _⟩ := Scheduler.perform_muted plan
        { c.scheduler with ready := c.scheduler.ready.eraseIdx place } job
      simp only [Option.map_some, next]
      rw [Scheduler.eraseReady_muted, state, Scheduler.doing_muted]
  | wait duration =>
    simp only [step, Move.muted, muted, Scheduler.reach_muted]
    rfl

theorem frame_muted (c : Chronicle ω) (move : Move ω) :
    (c.muted.frame move.muted).muted = (c.frame move).muted := by
  have state : (c.muted.frame move.muted).scheduler = (c.frame move).scheduler.muted :=
    congrArg Chronicle.scheduler (c.step_muted move)
  have answer : (c.muted.frame move.muted).answer = (c.frame move).answer := by
    cases move with
    | client name call => exact c.scheduler.answer_muted name call
    | _ => rfl
  have events : (c.muted.emits move.muted).map Event.muted =
      (c.emits move).map Event.muted := by
    cases move with
    | client name call => simp only [emits, Move.muted, muted, Scheduler.reports_muted]
    | shutdown =>
      simp only [emits, Move.muted, muted, Scheduler.shutdown_muted, Scheduler.Reply.muted]
    | take name =>
      simp only [emits, Move.muted, muted, Scheduler.takeOne?_muted]
      cases c.scheduler.takeOne? name <;> rfl
    | work plan place =>
      simp only [emits, Move.muted, muted, Scheduler.ready_muted]
      cases c.scheduler.ready[place]? with
      | none => rfl
      | some job =>
        obtain ⟨_, events⟩ := Scheduler.perform_muted plan
          { c.scheduler with ready := c.scheduler.ready.eraseIdx place } job
        simp only [Option.map_some]
        rw [Scheduler.eraseReady_muted, events]
    | cancel | wait => rfl
  simp only [Scheduler.Frame.muted, state, Scheduler.muted_muted, answer]
  congr 1
  exact Scheduler.timed_muted events c.scheduler.now

theorem frames_muted (c : Chronicle ω) (moves : List (Move ω)) :
    (c.muted.frames (moves.map Move.muted)).map Scheduler.Frame.muted =
      (c.frames moves).map Scheduler.Frame.muted := by
  induction moves generalizing c with
  | nil => rfl
  | cons move rest ih =>
    rw [List.map_cons, frames, frames, List.map_cons, List.map_cons, frame_muted, step_muted, ih]

end Chronicle

namespace Scheduler

/-- How executions end changes nothing in the schedule. Take a scheduler in any state, and two ways
for executions to go that agree on how long each of them goes on. Under the same script the answers,
the starts with their times, and the queues and loops after each order are the same. They are the
same after every atomic step, too, if the same steps are done in the same order, whatever the
order. -/
theorem outcomes_leave_schedule :
    (∀ (s : Scheduler ω) (plan plan' : Task ω → Execution),
        (∀ t, (plan t).length = (plan' t).length) → ∀ script : List (Order ω),
          (s.play plan script).map Frame.view = (s.play plan' script).map Frame.view) ∧
      ∀ (c : Chronicle ω) (moves moves' : List (Move ω)), List.Forall₂ Move.Alike moves moves' →
        (c.frames moves).map Frame.view = (c.frames moves').map Frame.view := by
  constructor
  · intro s plan plan' same script
    apply Frame.map_view_eq
    rw [← play_muted plan, ← play_muted plan', muted_plan_eq same]
  · intro c moves moves' alike
    apply Frame.map_view_eq
    have one : moves.map Move.muted = moves'.map Move.muted := by
      induction alike with
      | nil => rfl
      | cons alike _ ih => rw [List.map_cons, List.map_cons, alike.muted_eq, ih]
    rw [← Chronicle.frames_muted, one, Chronicle.frames_muted]

/-- One task fails each time and another one next to it breaks down, or both complete: they are
started and come back all the same. -/
theorem failing_tasks_keep_schedule :
    ∃ (script : List (Order Bool)) (plan plan' : Task Bool → Execution),
      (({} : Scheduler Bool).play plan script).map Frame.view =
          (({} : Scheduler Bool).play plan' script).map Frame.view ∧
        ((({} : Scheduler Bool).play plan script).map fun f => (Frame.view f).starts.map
            fun (t, task) => (t, task.id, task.run)) =
          [[], [(0, "a", 0)], [(0, "b", 0)],
            [(1500000000, "a", 1), (1500000000, "b", 1), (3000000000, "a", 2),
              (3000000000, "b", 2)]] := by
  let plan (t : Task Bool) : Execution :=
    ⟨some 500000000, if t.work then .failed ["refused", "no route"] else .panicked none⟩
  let plan' (_ : Task Bool) : Execution := ⟨some 500000000, .completed⟩
  let script : List (Order Bool) :=
    [.call "q" .addQueue,
      .call "q" (.register { id := "a", due := 0, interval := 1000000000, work := true }),
      .call "q" (.register { id := "b", due := 0, interval := 1000000000, work := false }),
      .advance 4000000000]
  have same := outcomes_leave_schedule.1 {} plan plan' (fun _ => rfl) script
  exact ⟨script, plan, plan', same, by decide +kernel⟩

end Scheduler

end Vigil
