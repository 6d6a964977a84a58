import Vigil.Proofs.Scheduler.Course
import Vigil.Proofs.Scheduler.Heeding
import Vigil.Proofs.Scheduler.Whereabouts

/-!
# Executions under way, and their end

Only jobs change what is under way (`perform_engaged`), and the clock: calls, wake-ups and
hand-backs leave it alone. No execution goes on after it is over (`Reached.punctual`), and none is
forgotten: it goes on until its end is reported and its task handed back (`ongoing_run`).
-/
namespace Vigil

open Queue

variable {ω : Type}

namespace Scheduler

/-- The jobs of executions, in line, and the executions that wait for their end. -/
def engaged (s : Scheduler ω) : List (Job ω) × List (Run ω) :=
  (s.ready.filter (·.duty.isSome), s.running)

variable {s s' : Scheduler ω} {name : String}

theorem engaged_wake (s : Scheduler ω) (name : String) : (s.wake name).engaged = s.engaged := by
  rcases wake_cases s name with ⟨same, _⟩ | ⟨_, _, _, _, woken⟩
  · rw [same]
  · rw [woken]
    simp [engaged, modifyLine, Job.duty]

theorem engaged_foldl_wake (names : List String) (s : Scheduler ω) :
    (names.foldl wake s).engaged = s.engaged := by
  induction names generalizing s with
  | nil => rfl
  | cons name rest ih => rw [List.foldl_cons, ih, engaged_wake]

theorem engaged_putQueue (s : Scheduler ω) (name : String) (q : Queue ω) (wakes : Bool) :
    (s.putQueue name q wakes).engaged = s.engaged := by
  unfold putQueue
  split
  · exact engaged_wake _ name
  · rfl

theorem engaged_detach (s : Scheduler ω) (line : Line ω) : (s.detach line).engaged = s.engaged := by
  have jobs : (s.detach line).ready.filter (·.duty.isSome) = s.ready.filter (·.duty.isSome) :=
    filter_detach (fun _ _ => ⟨rfl, rfl⟩) s line
  have runs : (s.detach line).running = s.running := by rw [detach_eq]
  rw [engaged, jobs, runs, engaged]

theorem engaged_foldl_detach (lines : List (Line ω)) (s : Scheduler ω) :
    (lines.foldl detach s).engaged = s.engaged := by
  induction lines generalizing s with
  | nil => rfl
  | cons line rest ih => rw [List.foldl_cons, ih, engaged_detach]

theorem engaged_cancel (s : Scheduler ω) : s.cancel.engaged = s.engaged :=
  engaged_foldl_wake _ { s with stopping := true }

theorem engaged_shutdown (s : Scheduler ω) : s.shutdown.scheduler.engaged = s.engaged :=
  (engaged_foldl_detach _ s.cancel).trans (engaged_cancel s)

theorem Served.engaged {call : Call ω} (served : Served s name call s') :
    s'.engaged = s.engaged := by
  cases served with
  | refused => rfl
  | added => simp [Scheduler.engaged, Job.duty]
  | detached => exact engaged_detach s _
  | put => exact engaged_putQueue s name _ _

theorem engaged_reschedule (s : Scheduler ω) (name : String) (t : Task ω) :
    (s.reschedule name t).1.engaged = s.engaged := by
  unfold reschedule
  split
  · rfl
  · split
    · rfl
    · split
      · rfl
      · exact engaged_putQueue s name _ _

theorem engaged_expire (s : Scheduler ω) (r : Run ω) : (s.expire r).1.engaged = s.engaged := by
  have told : ({ s with ready := s.ready ++ [.release r] } : Scheduler ω).engaged = s.engaged := by
    simp [engaged, Job.duty]
  exact (engaged_reschedule _ r.queue r.task).trans told

/-- What a job adds to what is under way: a look that is not refused adds executions in line, and an
execution that begins may stay, if it is not over yet. -/
theorem perform_engaged (sound : ∀ n q, s.queue? n = some q → q.Sound)
    (plan : Task ω → Execution) (job : Job ω) :
    ∃ jobs runs, (s.perform plan job).1.engaged = (s.engaged.1 ++ jobs, s.engaged.2 ++ runs) ∧
      (s.stopping = true → jobs = []) ∧
        ∀ r ∈ runs, ∀ c, r.overAt s.config.executionTimeout = some c → s.now < c := by
  have nothing {s' : Scheduler ω} (same : s'.engaged = s.engaged) :
      ∃ jobs runs, s'.engaged = (s.engaged.1 ++ jobs, s.engaged.2 ++ runs) ∧
        (s.stopping = true → jobs = []) ∧
          ∀ r ∈ runs, ∀ c, r.overAt s.config.executionTimeout = some c → s.now < c :=
    ⟨[], [], by simp [same], fun _ => rfl, List.forall_mem_nil _⟩
  cases job with
  | dispatch name =>
    cases here : s.line? name with
    | none =>
      have stays : s.dispatch name = (s, []) := by simp only [dispatch, here]
      simp only [perform, stays]
      exact nothing rfl
    | some line =>
      obtain ⟨_, _, ⟨_, _, left⟩ | ⟨going, _, q, tasks, wakeAt, _, slept⟩⟩ :=
        dispatch_cases (sound name) here
      · simp only [perform, left]
        exact nothing rfl
      · simp only [perform, slept]
        refine ⟨(tasks.zipIdx s.dispatched).map fun x => .start name x.2 x.1, [], ?_, ?_,
          List.forall_mem_nil _⟩
        · simp [engaged, modifyLine, List.filter_append, List.filter_map, Function.comp_def,
            Job.duty]
        · intro stopping
          rw [going] at stopping
          cases stopping
  | retire | release => exact nothing rfl
  | finish r => exact nothing (engaged_reschedule s r.queue r.task)
  | expire r => exact nothing (engaged_expire s r)
  | start name k t =>
    simp only [perform, start_eq]
    let r : Run ω := { queue := name, ticket := k, task := t, since := s.now, plan := plan t }
    rcases launch_cases (s := s) plan (r := r) rfl with ⟨_, past⟩ | ⟨later, stays⟩
    · rw [past]
      unfold Run.overJob
      split
      · exact nothing (engaged_reschedule s r.queue r.task)
      · exact nothing (engaged_expire s r)
    · rw [stays]
      exact ⟨[], [r], by simp [engaged], fun _ => rfl, List.forall_mem_singleton.mpr later⟩

/-! ### What clients set -/

theorem cancel_setting (s : Scheduler ω) : s.cancel.setting = (s.config, true) :=
  foldl_wake_setting _ { s with stopping := true }

theorem foldl_detach_setting (lines : List (Line ω)) (s : Scheduler ω) :
    (lines.foldl detach s).setting = s.setting := by
  induction lines generalizing s with
  | nil => rfl
  | cons line rest ih => rw [List.foldl_cons, ih, detach_setting]

theorem shutdown_setting (s : Scheduler ω) : s.shutdown.scheduler.setting = (s.config, true) :=
  (foldl_detach_setting _ s.cancel).trans (cancel_setting s)

/-! ### Executions end in time -/

/-- No execution that waits for its end is over. -/
def Punctual (s : Scheduler ω) : Prop :=
  ∀ r ∈ s.running, ∀ c, r.overAt s.config.executionTimeout = some c → s.now < c

theorem Punctual.of_running (punctual : s.Punctual) (running : s'.running = s.running)
    (config : s'.config = s.config) (still : s'.now = s.now) : s'.Punctual := by
  unfold Punctual
  rw [running, config, still]
  exact punctual

theorem Punctual.perform (punctual : s.Punctual) (sound : ∀ n q, s.queue? n = some q → q.Sound)
    (plan : Task ω → Execution) (job : Job ω) : (s.perform plan job).1.Punctual := by
  obtain ⟨jobs, runs, grown, _, later⟩ := perform_engaged sound plan job
  have running : (s.perform plan job).1.running = s.running ++ runs := congrArg Prod.snd grown
  have config : (s.perform plan job).1.config = s.config :=
    congrArg Prod.fst (perform_setting plan s job)
  unfold Punctual
  rw [running, config, perform_now]
  exact List.forall_mem_append.mpr ⟨punctual, later⟩

theorem punctual_reach (s : Scheduler ω) (now : Int) : (s.reach now).Punctual := by
  have config : (s.reach now).config = s.config := congrArg Prod.fst (reach_setting s now)
  intro r going c past
  rw [config] at past
  rw [reach_now]
  have still := (List.mem_filter.mp going).2
  simpa [past] using still

/-! ### Executions that go on -/

/-- The execution waits for its end, or its end is in line. -/
def Ongoing (s : Scheduler ω) (r : Run ω) : Prop :=
  r ∈ s.running ∨ r.overJob s.config.executionTimeout ∈ s.ready

theorem Ongoing.of_engaged {r : Run ω} (ongoing : s.Ongoing r) (config : s'.config = s.config)
    {jobs : List (Job ω)} {runs : List (Run ω)}
    (grown : s'.engaged = (s.engaged.1 ++ jobs, s.engaged.2 ++ runs)) : s'.Ongoing r := by
  obtain ⟨inLine, waiting⟩ := Prod.mk.inj grown
  unfold Ongoing
  rw [config]
  refine ongoing.imp (fun going => ?_) fun past => ?_
  · rw [waiting]
    exact List.mem_append_left _ going
  · have owed : (r.overJob s.config.executionTimeout).duty.isSome := by rw [duty_overJob]; rfl
    have member : r.overJob s.config.executionTimeout ∈ s.engaged.1 :=
      List.mem_filter.mpr ⟨past, owed⟩
    have kept : r.overJob s.config.executionTimeout ∈ s'.ready.filter (·.duty.isSome) := by
      rw [inLine]
      exact List.mem_append_left _ member
    exact (List.mem_filter.mp kept).1

theorem Ongoing.of_same {r : Run ω} (ongoing : s.Ongoing r) (config : s'.config = s.config)
    (same : s'.engaged = s.engaged) : s'.Ongoing r := by
  have grown : s'.engaged = (s.engaged.1 ++ [], s.engaged.2 ++ []) := by simp [same]
  exact ongoing.of_engaged config grown

theorem Ongoing.reach {r : Run ω} (ongoing : s.Ongoing r) (now : Int) :
    (s.reach now).Ongoing r := by
  let awake : Scheduler ω := (s.roused now).foldl wake { s with now }
  have config : awake.config = s.config :=
    congrArg Prod.fst (foldl_wake_setting (s.roused now) { s with now })
  have woken : awake.Ongoing r :=
    ongoing.of_same config (engaged_foldl_wake (s.roused now) { s with now })
  rw [Ongoing, config] at woken
  rw [reach_eq, Ongoing, conclude, config]
  rcases woken with going | ended
  · by_cases past : (r.overAt s.config.executionTimeout).any (· ≤ now) = true
    · right
      refine List.mem_append_right _ (List.mem_map.mpr ⟨r, List.mem_filter.mpr ⟨going, past⟩, rfl⟩)
    · left
      exact List.mem_filter.mpr ⟨going, by simpa using past⟩
  · exact .inr (List.mem_append_left _ ended)

end Scheduler

/-- How an execution that is over is reported. -/
def Run.report (r : Run ω) (limit : Option Nat) : Event ω :=
  if r.endsInTime limit then .ended r.task r.plan.ending else .dropped r.task

namespace Chronicle

/-- The move is the end of the execution: it is reported, and the task goes back. -/
structure Ends (c : Chronicle ω) (move : Move ω) (r : Run ω) : Prop where
  reported : r.report c.scheduler.config.executionTimeout ∈ c.emits move
  returned : (c.step move).trail =
    noted c.trail r.queue (c.scheduler.returning r.queue r.ticket r.task)

variable {c : Chronicle ω} {r : Run ω}

theorem Reached.punctual (reached : Reached c) : c.scheduler.Punctual := by
  induction reached with
  | fresh => exact List.forall_mem_nil _
  | @step c reached move ih =>
    have sound : ∀ n q, c.scheduler.queue? n = some q → q.Sound := fun _ => reached.sound
    cases move with
    | client name call =>
      have served := Scheduler.serve_served (sound name) call
      exact ih.of_running (congrArg Prod.snd served.engaged) (congrArg Prod.fst served.setting)
        (Scheduler.serve_now _ name call)
    | cancel =>
      exact ih.of_running (congrArg Prod.snd (Scheduler.engaged_cancel _))
        (congrArg Prod.fst (Scheduler.cancel_setting _)) (Scheduler.cancel_now _)
    | shutdown =>
      exact ih.of_running (congrArg Prod.snd (Scheduler.engaged_shutdown _))
        (congrArg Prod.fst (Scheduler.shutdown_setting _)) (Scheduler.shutdown_now _)
    | take name =>
      simp only [Chronicle.step]
      split
      · exact ih
      next took =>
        obtain ⟨_, _, _, _, _, rfl⟩ := Scheduler.takeOne?_took (sound name) took
        exact ih
    | work plan place =>
      simp only [Chronicle.step]
      split
      · exact ih
      next job found =>
        have punctual : ({ c.scheduler with ready := c.scheduler.ready.eraseIdx place } :
          Scheduler ω).Punctual := ih
        exact punctual.perform sound plan job
    | wait duration => exact Scheduler.punctual_reach _ _

/-- The configuration stays, and the root token is cancelled by whoever stops the scheduler. -/
theorem setting_step (reached : Reached c) (move : Move ω) :
    (c.step move).scheduler.setting =
      (c.scheduler.config, c.scheduler.stopping || move.stops) := by
  cases stops : move.stops with
  | false => rw [step_setting reached stops, Bool.or_false, Scheduler.setting]
  | true =>
    rw [Bool.or_true]
    cases move with
    | cancel => exact Scheduler.cancel_setting _
    | shutdown => exact Scheduler.shutdown_setting _
    | _ => cases stops

theorem config_run (reached : Reached c) (moves : List (Move ω)) :
    (c.run moves).scheduler.config = c.scheduler.config := by
  induction moves generalizing c with
  | nil => rfl
  | cons move rest ih =>
    exact (ih (reached.step move)).trans (congrArg Prod.fst (setting_step reached move))

/-! ### No execution is forgotten -/

theorem ongoing_step (reached : Reached c) (ongoing : c.scheduler.Ongoing r) (move : Move ω) :
    (c.step move).scheduler.Ongoing r ∨ Ends c move r := by
  have sound : ∀ n q, c.scheduler.queue? n = some q → q.Sound := fun _ => reached.sound
  have config : (c.step move).scheduler.config = c.scheduler.config :=
    congrArg Prod.fst (setting_step reached move)
  have unchanged (same : (c.step move).scheduler.engaged = c.scheduler.engaged) :
      (c.step move).scheduler.Ongoing r := ongoing.of_same config same
  cases move with
  | client name call => exact .inl (unchanged (Scheduler.serve_served (sound name) call).engaged)
  | cancel => exact .inl (unchanged (Scheduler.engaged_cancel _))
  | shutdown => exact .inl (unchanged (Scheduler.engaged_shutdown _))
  | take name =>
    simp only [Chronicle.step] at unchanged ⊢
    split
    · exact .inl ongoing
    next took =>
      obtain ⟨_, _, _, _, _, rfl⟩ := Scheduler.takeOne?_took (sound name) took
      exact .inl (ongoing.imp id (List.mem_append_left _))
  | work plan place =>
    cases found : c.scheduler.ready[place]? with
    | none =>
      simp only [Chronicle.step, found]
      exact .inl ongoing
    | some job =>
      let s : Scheduler ω := { c.scheduler with ready := c.scheduler.ready.eraseIdx place }
      by_cases own : job = r.overJob c.scheduler.config.executionTimeout
      · right
        subst own
        unfold Run.overJob at found
        constructor
        · unfold Run.report
          split at found <;> simp only [emits, found, Scheduler.perform]
          next inTime =>
            rw [if_pos inTime]
            exact List.mem_cons_self
          next late =>
            rw [if_neg late]
            exact List.mem_cons_self
        · split at found <;> simp only [Chronicle.step, found] <;> rfl
      · left
        have still : s.Ongoing r := by
          refine ongoing.imp id fun inLine => ?_
          obtain ⟨i, there⟩ := List.mem_iff_getElem?.mp inLine
          refine List.mem_eraseIdx_iff_getElem?.mpr ⟨i, ?_, there⟩
          rintro rfl
          rw [found] at there
          exact own (Option.some.inj there)
        obtain ⟨jobs, runs, grown, _⟩ := Scheduler.perform_engaged (s := s) sound plan job
        have same : (s.perform plan job).1.config = s.config :=
          congrArg Prod.fst (Scheduler.perform_setting plan s job)
        simp only [Chronicle.step, found]
        exact still.of_engaged same grown
  | wait duration =>
    exact .inl (ongoing.reach _)

/-- An execution goes on, or there is a move that was its end. -/
theorem ongoing_run (reached : Reached c) (ongoing : c.scheduler.Ongoing r)
    (moves : List (Move ω)) :
    (c.run moves).scheduler.Ongoing r ∨
      ∃ first move rest, moves = first ++ move :: rest ∧ Ends (c.run first) move r := by
  induction moves generalizing c with
  | nil => exact .inl ongoing
  | cons move rest ih =>
    rcases ongoing_step reached ongoing move with still | ends
    · rcases ih (reached.step move) still with on | ⟨first, last, later, rfl, ends⟩
      · exact .inl on
      · exact .inr ⟨move :: first, last, later, rfl, ends⟩
    · exact .inr ⟨[], move, rest, rfl, ends⟩

end Chronicle

end Vigil
