import Vigil.Proofs.Service.Validity
import Vigil.Proofs.Validation

/-!
# Check types are changed together with targets

A monitor that gets another check type keeps its target unless it is given a new one, and the target
it keeps was accepted for the old type. Between the two families of URLs it is therefore refused. A
URL is refused as a host and a port unless it ends in a port.
-/
namespace Vigil

open Validation (checkTarget HasScheme EndsInPort)

namespace Service

variable {s : Service} {id : MonitorId} {old : Monitor} {c : Changes}

/-- A change that would leave a monitor with a target of the wrong form is refused. -/
theorem modify_misfit (found : s.find? id = some old)
    (misfit : checkTarget (c.target.getD old.target) (c.checkType.getD old.checkType) ≠ .ok ()) :
    ∃ defect, s.modify id c = (s, .error (.invalidData defect)) := by
  cases valid : Validation.checkMonitor (old.apply s.stamp c) with
  | error defect => exact ⟨defect, by simp only [modify, found, valid]⟩
  | ok _ => exact absurd (Validation.checkMonitor_eq_ok.mp valid).target misfit

/-- A change that leaves name and interval alone is accepted as data if the target fits. -/
theorem modify_fit (found : s.find? id = some old) (acceptable : old.Acceptable)
    (name : c.name = none) (interval : c.interval = none)
    (fit : checkTarget (c.target.getD old.target) (c.checkType.getD old.checkType) = .ok ())
    (defect : Defect) : (s.modify id c).2 ≠ .error (.invalidData defect) := by
  have valid : Validation.checkMonitor (old.apply s.stamp c) = .ok () := by
    refine Validation.checkMonitor_eq_ok.mpr ⟨?_, fit, ?_⟩
    · simpa [Monitor.apply, name] using acceptable.name
    · simpa [Monitor.apply, interval] using acceptable.interval
  simp only [modify, found, valid]
  split
  · split <;> simp
  · simp

end Service

/-- A target with `://` in it is accepted for TCP exactly if it ends in a colon and a port, and no
target is accepted for two families of URLs. So in every session a monitor whose check type is
changed while its target stays is refused, with nothing changed, if the families are two of URLs, or
if the new one is TCP and the target has `://` in it and does not end in a port. If it does, the
change of the type is not refused as data. -/
theorem Session.check_type_changes (config : Scheduler.Config) (now : Int) (capacity : Nat)
    (listening : Bool) (queue : String) {acts : List Act}
    (foreign : ∀ act ∈ acts, act.Foreign queue) :
    (∀ target, HasScheme target → (checkTarget target .tcp = .ok () ↔ EndsInPort target)) ∧
    (∀ target a b, a.family ≠ b.family → a ≠ .tcp → b ≠ .tcp →
      checkTarget target a = .ok () → checkTarget target b ≠ .ok ()) ∧
    let s := ((fresh config now capacity listening queue).run acts).service
    ∀ id old c type, s.find? id = some old → c.checkType = some type → c.target = none →
      old.checkType ≠ .tcp → type.family ≠ old.checkType.family →
      (type ≠ .tcp → ∃ defect, s.modify id c = (s, .error (.invalidData defect))) ∧
      (type = .tcp → HasScheme old.target →
        (¬ EndsInPort old.target → ∃ defect, s.modify id c = (s, .error (.invalidData defect))) ∧
        (EndsInPort old.target → c.name = none → c.interval = none →
          ∀ defect, (s.modify id c).2 ≠ .error (.invalidData defect))) := by
  refine ⟨fun target => Validation.checkTarget_tcp_of_scheme,
    fun target a b apart urlA urlB => Validation.checkTarget_apart apart urlA urlB, ?_⟩
  intro s id old c type found retyped kept url apart
  have stored : old.Acceptable :=
    ((sound_fresh config now capacity listening queue).run foreign).traffic.found found
  have aimed : checkTarget (c.target.getD old.target) (c.checkType.getD old.checkType) =
      checkTarget old.target type := by
    rw [kept, retyped]
    rfl
  refine ⟨fun urlToo => ?_, ?_⟩
  · refine Service.modify_misfit found ?_
    rw [aimed]
    exact Validation.checkTarget_apart apart.symm url urlToo stored.target
  · rintro rfl scheme
    have accepted := Validation.checkTarget_tcp_of_scheme scheme
    refine ⟨fun portless => Service.modify_misfit found ?_, fun ends name interval => ?_⟩
    · rw [aimed]
      exact mt accepted.mp portless
    · exact Service.modify_fit found stored name interval (aimed.trans (accepted.mpr ends))

/-- Two monitors of one server, the second one at a port of its own. -/
def Session.watchingServer : List Act :=
  let site (target : String) : Request :=
    { name := "site", checkType := .http, target, interval := 10 }
  .undergo Pipeline.Ledger.slow (.client "health" .addQueue) ::
    (registering ⟨1⟩ 0 (site "http://[::1]/health") ++ registering ⟨2⟩ 1 (site "http://[::1]:8080"))

theorem Session.foreign_watchingServer : ∀ act ∈ watchingServer, act.Foreign "health" := by
  simp [watchingServer, registering, Act.Foreign, Pipeline.Move.Foreign, Scheduler.Call.task?]

/-- Both are refused as WebSockets. As an address only the first one is. -/
theorem Session.server_keeps_protocol :
    let s := ((fresh {} 0 3 true "health").run watchingServer).service
    (∃ defect, s.modify ⟨1⟩ { checkType := some .webSocket } = (s, .error (.invalidData defect))) ∧
      (∃ defect, s.modify ⟨2⟩ { checkType := some .webSocket } = (s, .error (.invalidData defect))) ∧
      (∃ defect, s.modify ⟨1⟩ { checkType := some .tcp } = (s, .error (.invalidData defect))) ∧
      ∀ defect, (s.modify ⟨2⟩ { checkType := some .tcp }).2 ≠ .error (.invalidData defect) := by
  intro s
  obtain ⟨addresses, -, changes⟩ := check_type_changes {} 0 3 true "health" foreign_watchingServer
  have first : (s.find? ⟨1⟩).map (fun m => (m.checkType, m.target)) =
      some (.http, "http://[::1]/health") := by decide +kernel
  have second : (s.find? ⟨2⟩).map (fun m => (m.checkType, m.target)) =
      some (.http, "http://[::1]:8080") := by decide +kernel
  obtain ⟨m, found, aimed⟩ := Option.map_eq_some_iff.mp first
  obtain ⟨n, found', aimed'⟩ := Option.map_eq_some_iff.mp second
  obtain ⟨http, target⟩ := Prod.mk.inj aimed
  obtain ⟨http', target'⟩ := Prod.mk.inj aimed'
  have schemes : HasScheme m.target ∧ HasScheme n.target := by
    rw [target, target']
    exact ⟨⟨"http".toList, "[::1]/health".toList, by decide⟩,
      ⟨"http".toList, "[::1]:8080".toList, by decide⟩⟩
  have portless : ¬ EndsInPort m.target := by
    rw [← addresses _ schemes.1, target]
    exact fun passed => absurd (congrArg Except.isOk passed) (by decide +kernel)
  have ends : EndsInPort n.target := by
    rw [← addresses _ schemes.2, target']
    exact Validation.eq_ok_of_isOk (by decide +kernel)
  have first' (type : CheckType) (apart : type.family ≠ .web) :=
    changes ⟨1⟩ m { checkType := some type } type found rfl rfl (by simp [http]) (by rwa [http])
  have second' (type : CheckType) (apart : type.family ≠ .web) :=
    changes ⟨2⟩ n { checkType := some type } type found' rfl rfl (by simp [http']) (by rwa [http'])
  refine ⟨(first' .webSocket (by decide)).1 (by decide), (second' .webSocket (by decide)).1 (by decide),
    ((first' .tcp (by decide)).2 rfl schemes.1).1 portless, ?_⟩
  exact ((second' .tcp (by decide)).2 rfl schemes.2).2 ends rfl rfl

/-- What is in front of the port passes for a host. -/
theorem Validation.url_passes_for_address :
    let target := "http://[::1]:8080"
    HasScheme target ∧ checkTarget target .http = .ok () ∧ checkTarget target .tcp = .ok () :=
  ⟨⟨"http".toList, "[::1]:8080".toList, by decide⟩, eq_ok_of_isOk (by decide +kernel),
    eq_ok_of_isOk (by decide +kernel)⟩

end Vigil
