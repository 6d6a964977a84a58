import Vigil.Proofs.Queue.Refusal
import Vigil.Proofs.Service.Tracking

/-!
# A call that fails changes nothing

A call may fail because there is no such monitor or the data is not valid, before it has touched
anything, or because the queue is not there or is closed. In the second case a registration has
tracked its monitor already and a modification has taken its task out; but the first is undone, and
from a closed queue there is nothing to take.
-/
namespace Vigil

variable {ω : Type}

/-- A monitor that is tracked for a while leaves nothing behind. -/
theorem Recorder.forget_track {r : Recorder} {m : MonitorId} (untracked : r.isTracked m = false) :
    (r.track m).forget m = r := by
  have absent : m.value ∉ r.entries := by simpa [isTracked] using untracked
  have same : (r.entries.insertIfNew m.value []).erase m.value = r.entries := by
    refine Std.ExtTreeMap.ext_getElem? fun {k} => ?_
    by_cases here : m.value = k
    · subst here
      simp [absent]
    · simp [Std.ExtTreeMap.getElem?_erase, Std.ExtTreeMap.getElem?_insertIfNew, here]
  simp only [forget, track, same]

namespace Service

/-- A call of a service that may fail. A registration comes with the identity that is drawn for it. -/
inductive Command where
  | register (id : MonitorId) (r : Request)
  | modify (id : MonitorId) (c : Changes)
  | toggle (id : MonitorId)
  | delete (id : MonitorId)
  | history (id : MonitorId)
  | trigger (id : MonitorId) (threshold : Nat) (probe : Monitor → Answer)

/-- What a call leads to, but for what it returns when it succeeds. -/
def Outcome.settled {α : Type} (outcome : Outcome α) : Outcome Unit :=
  (outcome.1, outcome.2.map fun _ => ())

def Command.perform (s : Service) : Command → Outcome Unit
  | .register id r => Outcome.settled (s.register id r)
  | .modify id c => Outcome.settled (s.modify id c)
  | .toggle id => Outcome.settled (s.toggle id)
  | .delete id => s.delete id
  | .history id => Outcome.settled (s, s.history id)
  | .trigger id threshold probe => Outcome.settled (s.trigger id threshold probe)

def Command.identity? : Command → Option MonitorId
  | .register id _ => some id
  | _ => none

section

variable {s : Service} {why : ServiceError}

theorem Outcome.error_of_settled {α : Type} {outcome : Outcome α}
    (failed : outcome.settled.2 = .error why) : outcome.2 = .error why := by
  obtain ⟨after, answer⟩ := outcome
  cases answer <;> cases failed
  rfl

theorem refused_of_error {s : Scheduler Monitor} {name : String} {t : Task Monitor}
    {e : SchedulingError} (refused : (s.register name t).answer = .error e) :
    (s.register name t).scheduler = s :=
  Scheduler.register_refused (by rw [refused]; rfl)

/-- A registration that fails has had its identity tracked for a while. -/
theorem register_failed {id : MonitorId} (untracked : s.recorder.isTracked id = false) {r : Request}
    (failed : (s.register id r).2 = .error why) : (s.register id r).1 = s := by
  let m := Monitor.ofRequest id s.stamp r
  cases valid : Validation.checkMonitor m with
  | error defect => simp only [register, m, valid]
  | ok _ =>
    cases on : m.enabled with
    | false =>
      simp only [register, m, valid, on, Bool.false_eq_true, ↓reduceIte] at failed
      cases failed
    | true =>
      cases asked : (s.scheduler.register s.queue (m.task s.now)).answer with
      | ok _ =>
        simp only [m] at valid on asked
        simp only [register, valid, on, ↓reduceIte, putRecorder_scheduler, asked] at failed
        cases failed
      | error e =>
        have kept := refused_of_error asked
        have forgotten := Recorder.forget_track untracked
        simp only [m] at valid on asked kept
        simp only [register, valid, on, ↓reduceIte, putRecorder_scheduler, asked, kept]
        -- the recorder is the only part that was changed, and it was changed back
        change s.putRecorder ((s.recorder.track id).forget id) = s
        rw [forgotten]
        rfl

theorem modify_failed (occurs : s.scheduler.Occurs) {id : MonitorId} {c : Changes}
    (failed : (s.modify id c).2 = .error why) : (s.modify id c).1 = s := by
  cases found : s.find? id with
  | none => simp only [modify, found]
  | some old =>
    cases valid : Validation.checkMonitor (old.apply s.stamp c) with
    | error defect => simp only [modify, found, valid]
    | ok _ =>
      cases on : (old.apply s.stamp c).enabled with
      | false =>
        simp only [modify, found, valid, on, Bool.false_eq_true, ↓reduceIte] at failed
        cases failed
      | true =>
        cases asked : (s.scheduler.update s.queue ((old.apply s.stamp c).task s.now)).answer with
        | ok _ =>
          simp only [modify, found, valid, on, ↓reduceIte, asked] at failed
          cases failed
        | error e =>
          simp only [modify, found, valid, on, ↓reduceIte, asked, occurs.update_refused asked]
          rfl

theorem toggle_failed {id : MonitorId} (failed : (s.toggle id).2 = .error why) :
    (s.toggle id).1 = s := by
  cases found : s.find? id with
  | none => simp only [toggle, found]
  | some old =>
    cases on : old.enabled with
    | true =>
      simp only [toggle, found, on, Bool.not_true, Bool.false_eq_true, ↓reduceIte] at failed
      cases failed
    | false =>
      let m : Monitor := { old with enabled := true, updatedAt := s.stamp }
      cases asked : (s.scheduler.register s.queue (m.task s.now)).answer with
      | ok _ =>
        simp only [m] at asked
        simp only [toggle, found, on, Bool.not_false, ↓reduceIte, asked] at failed
        cases failed
      | error e =>
        have kept := refused_of_error asked
        simp only [m] at asked kept
        simp only [toggle, found, on, Bool.not_false, ↓reduceIte, asked, kept]
        rfl

theorem delete_failed {id : MonitorId} (failed : (s.delete id).2 = .error why) :
    (s.delete id).1 = s := by
  cases found : s.find? id with
  | none => simp only [delete, found]
  | some old =>
    simp only [delete, found] at failed
    cases failed

theorem trigger_failed {id : MonitorId} {threshold : Nat} {probe : Monitor → Answer}
    (failed : (s.trigger id threshold probe).2 = .error why) :
    (s.trigger id threshold probe).1 = s := by
  cases found : s.find? id with
  | none => simp only [trigger, found]
  | some m =>
    simp only [trigger, found] at failed
    split at failed <;> cases failed

end

variable {j : Journal}

/-- Nobody tracks an identity before it is drawn. -/
theorem Journal.Kept.untracked (kept : j.Kept) {id : MonitorId} (fresh : id ∉ j.drawn) :
    j.service.recorder.isTracked id = false := by
  rw [← Bool.not_eq_true]
  exact fun there => fresh (kept.enrolled.present id (kept.enrolled.tracked id there))

/-- Whatever a service has come to, with calls under way or not, and whether its queue is there and
open, or closed, or missing: a call that returns an error leaves all as it was, the monitors, the
recorder, and the scheduler with its queues. -/
theorem failed_call_changes_nothing (reached : j.Reached) (command : Command)
    (fresh : ∀ id ∈ command.identity?, id ∉ j.drawn) {why : ServiceError}
    (failed : (command.perform j.service).2 = .error why) :
    (command.perform j.service).1 = j.service := by
  have kept := reached.kept
  cases command with
  | register id r =>
    exact register_failed (kept.untracked (fresh id rfl)) (Outcome.error_of_settled failed)
  | modify id c => exact modify_failed kept.occurs (Outcome.error_of_settled failed)
  | toggle id => exact toggle_failed (Outcome.error_of_settled failed)
  | delete id => exact delete_failed failed
  | history id => rfl
  | trigger id threshold probe => exact trigger_failed (Outcome.error_of_settled failed)

/-- The queue is closed while the check of a monitor is executing. The monitor cannot be modified
then, and another one cannot be registered. -/
theorem refused_by_closed_queue :
    let r : Request := { name := "db", checkType := .tcp, target := "db:5432", interval := 60 }
    let slower : Command := .modify ⟨1⟩ { interval := some 90 }
    ∃ j : Journal, j.Reached ∧ (∀ id ∈ (Command.register ⟨2⟩ r).identity?, id ∉ j.drawn) ∧
      (slower.perform j.service).2 = .error (.scheduling .queueClosed) ∧
      (slower.perform j.service).1 = j.service ∧
      ((Command.register ⟨2⟩ r).perform j.service).2 = .error (.scheduling .queueClosed) ∧
      ((Command.register ⟨2⟩ r).perform j.service).1 = j.service := by
  intro r slower
  let minute : Nat := Duration.ofSeconds 60
  let c : Pipeline.Checks :=
    { threshold := 100, probe := fun _ _ => { delay := minute, answer := .reached 5 none } }
  have new : Journal.Reached _ := .fresh {} 0 9 true "health"
  have opened := (new.step (.undergo c (.client "health" .addQueue) fun _ => rfl)).step
    (.undergo c (.work 0) trivial)
  have entered := opened.step (.enter (.register ⟨1⟩ 0 r) (by decide +kernel) (by decide +kernel))
  have one := ((entered.step .proceed).step .proceed).step .proceed
  have executing := ((one.step (.undergo c (.wait minute) trivial)).step
    (.undergo c (.work 0) trivial)).step (.undergo c (.work 0) trivial)
  have closed := executing.step (.undergo c (.client "health" .closeQueue) fun _ => rfl)
  refine ⟨_, closed, by decide +kernel, by decide +kernel, ?_, by decide +kernel, ?_⟩
  · exact failed_call_changes_nothing closed slower nofun
      (show _ = Except.error (.scheduling .queueClosed) by decide +kernel)
  · exact failed_call_changes_nothing closed (.register ⟨2⟩ r) (by decide +kernel)
      (show _ = Except.error (.scheduling .queueClosed) by decide +kernel)

end Service

end Vigil
