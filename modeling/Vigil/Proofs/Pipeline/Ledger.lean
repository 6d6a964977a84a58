import Vigil.Pipeline
import Vigil.Proofs.Scheduler.Chronicle

/-!
# Runs of a pipeline, with their ledgers

A ledger stands beside a pipeline: the executions that are over, in order, and the results the
recorder took. The runs are those of its scheduler, together with the turns of the recorder and
the calls that track a monitor or forget it. What the clock-driven pipeline does is such a run.
-/
namespace Vigil

namespace Pipeline

/-- One thing that can happen to a pipeline whose recorder is fed. -/
inductive Move where
  | client (name : String) (call : Scheduler.Call Monitor)
  | cancel
  | shutdown
  /-- A dispatch loop takes one task. -/
  | take (name : String)
  /-- The job in this place of the ready line is done. -/
  | work (place : Nat)
  | wait (duration : Nat)
  /-- The recorder takes its turn. -/
  | record
  | track (m : MonitorId)
  | forget (m : MonitorId)

/-- No client's doing. -/
def Move.Internal : Move → Prop
  | .take _ | .work _ | .wait _ | .record => True
  | _ => False

theorem Move.Internal.ne_forget {move : Move} (internal : move.Internal) (m : MonitorId) :
    move ≠ .forget m := by
  rintro rfl
  exact internal

/-- Whether an execution is over by this event. -/
def endsExecution : Vigil.Event Monitor → Bool
  | .ended .. | .dropped _ => true
  | _ => false

structure Ledger where
  pipeline : Pipeline
  /-- The ends of executions, the oldest first. -/
  endings : List (Vigil.Event Monitor) := []
  /-- The results that the recorder took from the channel, the oldest first. -/
  delivered : List CheckResult := []

namespace Ledger

variable (c : Checks)

def withScheduler (l : Ledger) (scheduler : Scheduler Monitor) : Ledger :=
  { l with pipeline := { l.pipeline with scheduler } }

def withRecorder (l : Ledger) (f : Recorder → Recorder) : Ledger :=
  { l with pipeline := { l.pipeline with
      inbox := { l.pipeline.inbox with recorder := f l.pipeline.inbox.recorder } } }

def step (l : Ledger) : Move → Ledger
  | .client name call => l.withScheduler (l.pipeline.scheduler.serve name call)
  | .cancel => l.withScheduler l.pipeline.scheduler.cancel
  | .shutdown => l.withScheduler l.pipeline.scheduler.shutdown.scheduler
  | .take name =>
    match l.pipeline.scheduler.takeOne? name with
    | none => l
    | some (s, _) => l.withScheduler s
  | .work place =>
    match l.pipeline.scheduler.ready[place]? with
    | none => l
    | some job =>
      let rest := l.pipeline.scheduler.ready.eraseIdx place
      let done := { l.pipeline.scheduler with ready := rest }.perform c.plan job
      let waiting := { l.pipeline with scheduler := done.1, turn := l.pipeline.turn.map (· - 1) }
      { l with
        pipeline := (observe c rest.length waiting done.2).1
        endings := l.endings ++ done.2.filter endsExecution }
  | .wait duration =>
    l.withScheduler (l.pipeline.scheduler.reach (l.pipeline.scheduler.now + duration))
  | .record =>
    let inbox := l.pipeline.inbox
    { l with
      pipeline := l.pipeline.record.1
      delivered := l.delivered ++ if inbox.listening && !inbox.stopped then inbox.waiting else [] }
  | .track m => l.withRecorder (·.track m)
  | .forget m => l.withRecorder (·.forget m)

/-- The ledgers of all runs in which `m` is tracked throughout, from a new scheduler and a new
recorder that listens. -/
inductive Reached (m : MonitorId) : Ledger → Prop where
  | fresh (config : Scheduler.Config) (now : Int) (capacity : Nat) :
      Reached m
        { pipeline :=
          { scheduler := { config, now }
            inbox := { recorder := (Recorder.ofCapacity capacity).track m, listening := true } } }
  | step {l : Ledger} (reached : Reached m l) (move : Move) (keeps : move ≠ .forget m) :
      Reached m (l.step c move)

def run (l : Ledger) (moves : List Move) : Ledger := moves.foldl (step c) l

theorem Reached.run {m : MonitorId} {l : Ledger} (reached : Reached c m l) {moves : List Move}
    (keeps : ∀ move ∈ moves, move ≠ .forget m) : Reached c m (l.run c moves) := by
  induction moves generalizing l with
  | nil => exact reached
  | cons move rest ih =>
    obtain ⟨first, others⟩ := List.forall_mem_cons.mp keeps
    exact ih (reached.step move first) others

variable {c} {m : MonitorId}

/-! ### The clock-driven pipeline -/

theorem run_append (l : Ledger) (first second : List Move) :
    l.run c (first ++ second) = (l.run c first).run c second := List.foldl_append

theorem exists_step (l : Ledger) {next : Pipeline × List Event}
    (stepped : l.pipeline.step? c = some next) :
    ∃ move : Move, move.Internal ∧ (l.step c move).pipeline = next.1 := by
  unfold step? at stepped
  split at stepped
  · cases stepped
  · cases stepped
    exact ⟨.record, trivial, rfl⟩
  · cases stepped
    exact ⟨.record, trivial, rfl⟩
  next job rest ready _ =>
    cases stepped
    refine ⟨.work 0, trivial, ?_⟩
    simp only [Ledger.step, ready, List.getElem?_cons_zero, List.eraseIdx_zero, List.tail_cons]
    rfl

theorem exists_run_settle (l : Ledger) :
    ∃ moves : List Move, (∀ move ∈ moves, move.Internal) ∧
      (l.run c moves).pipeline = (l.pipeline.settle c).1 := by
  generalize same : l.pipeline = p
  fun_induction Pipeline.settle c p generalizing l with
  | case1 p stuck => exact ⟨[], List.forall_mem_nil _, same⟩
  | case2 p next stepped less final ih =>
    subst same
    obtain ⟨move, internal, there⟩ := exists_step l stepped
    obtain ⟨moves, others, done⟩ := ih (l.step c move) there
    exact ⟨move :: moves, List.forall_mem_cons.mpr ⟨internal, others⟩, done⟩
  | case3 p next stepped last =>
    subst same
    obtain ⟨move, internal, there⟩ := exists_step l stepped
    exact ⟨[move], List.forall_mem_singleton.mpr internal, there⟩

/-- What happens while the clock moves is a run. -/
theorem exists_run_advanceTo (l : Ledger) {target : Int}
    (later : l.pipeline.scheduler.now ≤ target) :
    ∃ moves : List Move, (∀ move ∈ moves, move.Internal) ∧
      (l.run c moves).pipeline = (l.pipeline.advanceTo c target).1 := by
  have stop : ∀ (l : Ledger) (t : Int), l.pipeline.scheduler.now ≤ t →
      ∃ moves : List Move, (∀ move ∈ moves, move.Internal) ∧
        (l.run c moves).pipeline =
          (settle c { l.pipeline with scheduler := l.pipeline.scheduler.reach t }).1 := by
    intro l t on
    let waited := l.step c (.wait (t - l.pipeline.scheduler.now).toNat)
    have clock : l.pipeline.scheduler.now + (t - l.pipeline.scheduler.now).toNat = t := by omega
    have there : waited.pipeline =
        { l.pipeline with scheduler := l.pipeline.scheduler.reach t } := by
      simp only [waited, Ledger.step, withScheduler, clock]
    obtain ⟨moves, internal, done⟩ := exists_run_settle (c := c) waited
    rw [there] at done
    have first : Move.Internal (.wait (t - l.pipeline.scheduler.now).toNat) := trivial
    exact ⟨_ :: moves, List.forall_mem_cons.mpr ⟨first, internal⟩, done⟩
  generalize same : l.pipeline = p at later
  fun_induction Pipeline.advanceTo c p target generalizing l with
  | case1 p stop' timer =>
    subst same
    exact stop l target later
  | case2 p stop' t timer before reached final ih =>
    subst same
    have on : l.pipeline.scheduler.now ≤ t := Int.le_of_lt (Scheduler.now_lt_nextTimer timer)
    obtain ⟨first, internal, arrived⟩ := stop l t on
    have clock : (l.run c first).pipeline.scheduler.now ≤ target := by
      rw [arrived, Pipeline.settle_now, Scheduler.reach_now]
      exact before
    obtain ⟨second, internal', done⟩ := ih (l.run c first) arrived (arrived ▸ clock)
    exact ⟨first ++ second, List.forall_mem_append.mpr ⟨internal, internal'⟩, by
      rw [run_append, done]⟩
  | case3 p stop' t timer after =>
    subst same
    exact stop l target later

theorem Reached.advanceTo {l : Ledger} (reached : Reached c m l) {target : Int}
    (later : l.pipeline.scheduler.now ≤ target) :
    ∃ l', Reached c m l' ∧ l'.pipeline = (l.pipeline.advanceTo c target).1 := by
  obtain ⟨moves, internal, done⟩ := exists_run_advanceTo (c := c) l later
  exact ⟨_, reached.run c fun move member => (internal move member).ne_forget m, done⟩

end Ledger

end Pipeline

end Vigil
