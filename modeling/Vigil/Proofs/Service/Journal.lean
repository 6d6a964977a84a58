import Mathlib.Logic.Function.Iterate
import Mathlib.Logic.Relation
import Vigil.Proofs.Scheduler.Knowledge
import Vigil.Proofs.Service.Mirror

/-!
# Runs of a service whose queue may go

A service is made for a queue that may not be there yet, and that anybody may close, remove or add
anew at any time; so a call may find no queue, a closed one, or one that is removed before the call
has done with it (`Traffic.miss`). The recorder takes its results one by one, and may do so between
any two steps of a call (`Service.hear`). A journal stands beside the calls under way: the identities
that registrations came with, and the monitors whose deletion has returned.
-/
namespace Vigil

/-- Nobody brings a task to the queue of this name, and the recorder is told nothing but results. -/
def Pipeline.Move.Foreign (name : String) : Pipeline.Move → Prop
  | .client other call => other = name → call.task? = none
  | .track _ | .forget _ => False
  | _ => True

theorem Pipeline.Move.Foreign.quiet {move : Pipeline.Move} {name : String}
    (foreign : move.Foreign name) : move.Quiet := by
  cases move <;> first | exact trivial | exact foreign.elim

/-- What the scheduler of a pipeline does in a move of the pipeline. -/
def Pipeline.Move.scheduling? (c : Pipeline.Checks) : Pipeline.Move → Option (Vigil.Move Monitor)
  | .client name call => some (.client name call)
  | .cancel => some .cancel
  | .shutdown => some .shutdown
  | .take name => some (.take name)
  | .work place => some (.work c.plan place)
  | .wait duration => some (.wait duration)
  | .record | .track _ | .forget _ => none

theorem Pipeline.Move.Foreign.not_gives {move : Pipeline.Move} {name : String}
    (foreign : move.Foreign name) {c : Pipeline.Checks} {part : Vigil.Move Monitor}
    (about : move.scheduling? c = some part) (id : String) : ¬ part.Gives name id := by
  cases move with
  | client other call =>
    cases about
    rintro ⟨same, t, brought, _⟩
    rw [foreign same] at brought
    cases brought
  | record | track | forget => cases about
  | _ =>
    cases about
    exact fun given => given

namespace Pipeline.Ledger

theorem scheduler_step (c : Checks) (l : Ledger) (move : Pipeline.Move) :
    (l.step c move).pipeline.scheduler =
      (move.scheduling? c).elim l.pipeline.scheduler l.pipeline.scheduler.moved := by
  cases move with
  | take name =>
    simp only [step, Move.scheduling?, Option.elim_some, Scheduler.moved, Chronicle.step]
    cases l.pipeline.scheduler.takeOne? name <;> rfl
  | work place =>
    simp only [step, Move.scheduling?, Option.elim_some, Scheduler.moved, Chronicle.step]
    cases l.pipeline.scheduler.ready[place]? with
    | none => rfl
    | some job => exact observe_scheduler ..
  | _ => rfl

end Pipeline.Ledger

namespace Service

/-- The recorder takes the first result that waits. -/
def hear (s : Service) : Service :=
  match s.pipeline.inbox.waiting with
  | [] => s
  | r :: rest =>
    { s with pipeline := { s.pipeline with
        inbox := { s.pipeline.inbox with
          recorder := (s.recorder.record r).1
          waiting := rest } } }

/-- To take its turn is for the recorder to take all that waits, one by one. -/
theorem hear_iterate (s : Service) (listening : s.pipeline.inbox.listening = true)
    (going : s.pipeline.inbox.stopped = false) :
    (hear^[s.pipeline.inbox.waiting.length] s).recorder = s.pipeline.record.1.inbox.recorder := by
  have taken : s.pipeline.record.1.inbox.recorder =
      (s.recorder.recordAll s.pipeline.inbox.waiting).1 := by
    simp [Pipeline.record, Inbox.drain, listening, going, recorder]
  rw [taken]
  clear listening going taken
  generalize waits : s.pipeline.inbox.waiting = results
  induction results generalizing s with
  | nil => rfl
  | cons r rest ih =>
    simp only [List.length_cons, Function.iterate_succ, Function.comp_apply, Recorder.recordAll]
    have heard : s.hear.pipeline.inbox.waiting = rest := by simp only [hear, waits]
    rw [ih s.hear heard]
    simp only [hear, waits, recorder]

theorem hear_scheduler (s : Service) : s.hear.scheduler = s.scheduler := by
  unfold hear
  split <;> rfl

theorem hear_monitors (s : Service) : s.hear.monitors = s.monitors := by
  unfold hear
  split <;> rfl

theorem hear_queue (s : Service) : s.hear.queue = s.queue := by
  unfold hear
  split <;> rfl

theorem isTracked_hear (s : Service) (id : MonitorId) :
    s.hear.recorder.isTracked id = s.recorder.isTracked id := by
  unfold hear
  split
  · rfl
  · exact Recorder.isTracked_record s.recorder _ id

/-- The queue that the call that holds the lock has looked up is removed before the call does its
step: it is closed and knows nothing, so a task is refused and there is none to take out. -/
def Traffic.miss (t : Traffic) : Traffic :=
  match t.holder with
  | some (.registering m _) => { t with holder := some (.untracking m) }
  | some (.disabling m) => { t with holder := some (.replacing m) }
  | some (.clearing ..) | some (.pushing ..) | some (.enabling ..) => { t with holder := none }
  | _ => t

theorem Traffic.miss_service (t : Traffic) : t.miss.service = t.service := by
  obtain ⟨s, holder, leaving⟩ := t
  cases holder with
  | none => rfl
  | some stage => cases stage <;> rfl

def Call.identity? : Call → Option MonitorId
  | .register id _ _ => some id
  | _ => none

/-- The monitor whose deletion ends with this step. -/
def Parting.deleted? : Parting → Option MonitorId
  | .unscheduling _ => none
  | .forgetting id => some id

structure Journal where
  traffic : Traffic
  /-- The identities that registrations came with. -/
  drawn : List MonitorId := []
  /-- The monitors whose deletion has returned. -/
  deleted : List MonitorId := []

namespace Journal

def service (j : Journal) : Service := j.traffic.service

/-- No two registrations come with one identity. -/
def Original (j : Journal) (call : Call) : Prop :=
  ∀ id ∈ call.identity?, id.Proper ∧ id ∉ j.drawn

instance (j : Journal) (call : Call) : Decidable (j.Original call) :=
  inferInstanceAs (Decidable (∀ id ∈ call.identity?, id.Proper ∧ id ∉ j.drawn))

def enter (j : Journal) (call : Call) : Journal :=
  { j with
    traffic := j.traffic.enter call
    drawn := call.identity?.toList ++ j.drawn }

def part (j : Journal) (place : Nat) : Journal :=
  { j with
    traffic := j.traffic.part place
    deleted := (j.traffic.leaving[place]?.bind Parting.deleted?).toList ++ j.deleted }

/-- One step of a call, of the pipeline, or of a client that triggers checks. -/
inductive Step (j : Journal) : Journal → Prop where
  | enter (call : Call) (free : j.traffic.holder = none) (original : j.Original call) :
      Step j (j.enter call)
  | proceed : Step j { j with traffic := j.traffic.proceed }
  | miss : Step j { j with traffic := j.traffic.miss }
  | part (place : Nat) : Step j (j.part place)
  | undergo (c : Pipeline.Checks) (move : Pipeline.Move) (foreign : move.Foreign j.service.queue) :
      Step j { j with traffic := j.traffic.undergo c move }
  | hear : Step j { j with traffic := { j.traffic with service := j.service.hear } }
  | report (r : CheckResult) :
      Step j { j with traffic := { j.traffic with service := j.service.report r } }

/-- What can come after. -/
def Later : Journal → Journal → Prop := Relation.ReflTransGen Step

/-- What a new service over a new scheduler can come to. -/
inductive Reached : Journal → Prop where
  | fresh (config : Scheduler.Config) (now : Int) (capacity : Nat) (listening : Bool)
      (queue : String) :
      Reached
        { traffic :=
          { service :=
            { pipeline :=
                { scheduler := { config, now }
                  inbox := { recorder := .ofCapacity capacity, listening } }
              queue } } }
  | step {j j' : Journal} (reached : Reached j) (move : j.Step j') : Reached j'

variable {j j' : Journal}

theorem Reached.later (reached : j.Reached) (later : j.Later j') : j'.Reached := by
  induction later with
  | refl => exact reached
  | tail _ move ih => exact ih.step move

/-- The program begins with its queue in place. -/
theorem reached_ofConfig {c : Config} {o : Orchestrator} (built : Orchestrator.ofConfig c = .ok o)
    (checks : Pipeline.Checks) : Reached { traffic := { service := o.service } } := by
  unfold Orchestrator.ofConfig at built
  cases timeout : Validation.checkTimeout c.checking.timeout with
  | error defect =>
    rw [timeout] at built
    cases built
  | ok _ =>
    rw [timeout] at built
    cases built
    have new := Reached.fresh c.scheduling.schedulerConfig 0 c.retention.historyPerMonitor true
      c.scheduling.queue
    exact new.step (.undergo checks (.client c.scheduling.queue .addQueue) fun _ => rfl)

end Journal

end Service

end Vigil
