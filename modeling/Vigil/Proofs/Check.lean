import Vigil.Service
import Vigil.Proofs.Pipeline.Accounting

/-!
# The contract of a check

A check may be cut off by its token at any moment, its probe may answer anything after any while.
Unless the probe breaks down, one result is sent, and the way the execution ends says the same as
that result. Whether a check was scheduled or asked for by a client makes no difference to it.
-/
namespace Vigil

/-- A decided result for this monitor, which has a latency if the target answered and an error
message if it did not. -/
structure CheckResult.Describes (r : CheckResult) (m : Monitor) : Prop where
  monitor : r.monitor = m.id
  target : r.target = m.target
  checkType : r.checkType = m.checkType
  decided : r.status ≠ .unknown
  latency : r.latency.isSome ↔ r.status ≠ .down
  errorMessage : r.errorMessage.isSome ↔ r.status = .down

namespace Check

/-- The token is cancelled from the outset, or before the probe has answered. -/
def Cut (probe : Probe) (cancelledAfter : Option Nat) : Prop :=
  ∃ moment ∈ cancelledAfter, moment = 0 ∨ moment < probe.delay

/-- What a result has to say about an answer of the target. -/
def Reflects (threshold : Nat) (r : CheckResult) : Answer → Prop
  | .reached latency statusCode =>
    (r.status = .degraded ↔ threshold < latency) ∧ (r.status = .up ↔ latency ≤ threshold) ∧
      r.latency = some latency ∧ r.statusCode = statusCode
  | .failed causes => r.status = .down ∧ r.errorMessage = some (causes.headD "")
  | .broken _ => False

/-- The ending of an execution says the same as its result. -/
def Agrees (r : CheckResult) (ending : Ending) : Prop :=
  ending = .completed ∧ r.status ≠ .down ∨
    ∃ why, ending = .failed [why] ∧ r.status = .down ∧ r.errorMessage = some why

variable {threshold : Nat} {m : Monitor} {probe : Probe} {cancelledAfter : Option Nat}
  {r : CheckResult}

/-! ### Results -/

theorem cancelled_describes : (cancelled m).Describes m :=
  ⟨rfl, rfl, rfl, by simp [cancelled, CheckResult.failure],
    by simp [cancelled, CheckResult.failure, blank],
    by simp [cancelled, CheckResult.failure]⟩

theorem judge_describes {a : Answer} (judged : judge threshold m a = some r) : r.Describes m := by
  cases a with
  | reached latency statusCode =>
    simp only [judge, Option.some.injEq] at judged
    subst judged
    split <;> constructor <;> simp [CheckResult.degraded, CheckResult.success, blank]
  | failed causes =>
    cases judged
    constructor <;> simp [CheckResult.failure, blank]
  | broken said => cases judged

theorem judge_reflects {a : Answer} (judged : judge threshold m a = some r) :
    Reflects threshold r a := by
  cases a with
  | reached latency statusCode =>
    simp only [judge, Option.some.injEq] at judged
    subst judged
    by_cases slow : threshold < latency
    · simp [Reflects, CheckResult.degraded, slow]
    · simp [Reflects, CheckResult.success, slow, Nat.le_of_not_lt slow]
  | failed causes =>
    cases judged
    exact ⟨rfl, rfl⟩
  | broken said => cases judged

theorem judge_eq_none_iff {a : Answer} :
    judge threshold m a = none ↔ ∃ said, a = .broken said := by
  cases a <;> simp [judge]

theorem agrees_endingOf (describes : r.Describes m) : Agrees r (endingOf r) := by
  by_cases down : r.status = .down
  · obtain ⟨why, said⟩ := Option.isSome_iff_exists.mp (describes.errorMessage.mpr down)
    exact .inr ⟨why, by simp [endingOf, CheckResult.isDown, down, said], down, said⟩
  · exact .inl ⟨by simp [endingOf, CheckResult.isDown, down], down⟩

/-! ### Courses -/

theorem execute_cut (cut : Cut probe cancelledAfter) :
    (execute threshold m probe cancelledAfter).result = some (cancelled m) := by
  obtain ⟨moment, after, early⟩ := cut
  cases Option.mem_def.mp after
  simp only [execute]
  split
  next => rfl
  next started => rw [if_pos (early.resolve_left started)]

theorem execute_uncut (uncut : ¬ Cut probe cancelledAfter) :
    execute threshold m probe cancelledAfter =
      ⟨true, probe.delay, judge threshold m probe.answer⟩ := by
  cases cancelledAfter with
  | none => rfl
  | some moment =>
    have late : moment ≠ 0 ∧ ¬ moment < probe.delay := by
      simpa [Cut] using uncut
    simp only [execute, if_neg late.1, if_neg late.2]

theorem execute_probed :
    (execute threshold m probe cancelledAfter).probed = false ↔ cancelledAfter = some 0 := by
  cases cancelledAfter with
  | none => simp [execute]
  | some moment =>
    simp only [execute, Option.some.injEq]
    split
    next now => simp [now]
    next later => split <;> simp [later]

end Check

namespace Pipeline

/-- A whole execution of a check: its result, if there is one, is sent, and tells how it ends. -/
def conduct (c : Checks) (ahead : Nat) (p : Pipeline) (t : Task Monitor)
    (cancelledAfter : Option Nat) : Pipeline × Option Ending :=
  match (Check.execute c.threshold t.work (c.probeOf t) cancelledAfter).result with
  | some r => (p.send ahead r, some (Check.endingOf r))
  | none => (p, none)

variable {c : Checks} {ahead : Nat} {p : Pipeline} {t : Task Monitor}

theorem conduct_eq {cancelledAfter : Option Nat} {r : CheckResult}
    (found : (Check.execute c.threshold t.work (c.probeOf t) cancelledAfter).result =
      some r) :
    conduct c ahead p t cancelledAfter = (p.send ahead r, some (Check.endingOf r)) := by
  simp only [conduct]
  rw [found]

theorem send_waiting (p : Pipeline) (ahead : Nat) (r : CheckResult) :
    (p.send ahead r).inbox.waiting =
      p.inbox.waiting ++ if p.inbox.isOpen then [r] else [] := by
  cases open_ : p.inbox.isOpen <;> simp [send, Inbox.send?, open_]

/-- The execution that a scheduler makes of a check is one whose token is left alone. -/
theorem observe_ended (ending : Ending) :
    (observe c ahead p [.ended t ending]).1 = (conduct c ahead p t none).1 := by
  simp only [observe, conduct, Check.execute, Checks.result]
  cases Check.judge c.threshold t.work (c.probeOf t).answer <;> rfl

theorem plan_ending {r : CheckResult}
    (judged : Check.judge c.threshold t.work (c.probeOf t).answer = some r) :
    (c.plan t).ending = Check.endingOf r := by
  simp only [Checks.plan, Check.ending, judged]

/-- What a client triggers is what the scheduled execution would have found out. -/
theorem trigger_eq_conduct {s : Service} {id : MonitorId} {answers : Monitor → Answer}
    (stored : s.find? id = some t.work) (same : answers t.work = (c.probeOf t).answer) :
    s.trigger id c.threshold answers =
      ({ s with pipeline := (conduct c s.scheduler.ready.length s.pipeline t none).1 },
        .ok (Check.execute c.threshold t.work (c.probeOf t) none).result) := by
  simp only [Service.trigger, stored, same, conduct, Check.execute]
  cases Check.judge c.threshold t.work (c.probeOf t).answer <;> rfl

/-- For every task, every probe of it and every moment at which the token is cancelled, if it ever
is. The probe is left out exactly if the token was cancelled from the outset. There is no result
exactly if the probe breaks down without having been cut off; any other execution sends exactly
one, which describes the monitor and says how the execution ends: with "check cancelled" if it was
cut off, and as the target answered if it was not. The scheduler's executions are those that are
not cut off, and a trigger that gets the same answer finds out the same. -/
theorem conduct_contract (c : Checks) (ahead : Nat) (p : Pipeline) (t : Task Monitor)
    (cancelledAfter : Option Nat) :
    let probe := c.probeOf t
    let course := Check.execute c.threshold t.work probe cancelledAfter
    let after := conduct c ahead p t cancelledAfter
    (course.probed = false ↔ cancelledAfter = some 0) ∧
    (course.result = none ↔
      ¬ Check.Cut probe cancelledAfter ∧ ∃ said, probe.answer = .broken said) ∧
    (∀ r, course.result = some r →
      after.1.inbox.waiting = p.inbox.waiting ++ (if p.inbox.isOpen then [r] else []) ∧
      r.Describes t.work ∧ (∃ ending, after.2 = some ending ∧ Check.Agrees r ending) ∧
      (Check.Cut probe cancelledAfter →
        r.status = .down ∧ r.errorMessage = some "check cancelled") ∧
      (¬ Check.Cut probe cancelledAfter → Check.Reflects c.threshold r probe.answer)) ∧
    (∀ r, (Check.execute c.threshold t.work probe none).result = some r →
      (c.plan t).length = some (probe.delay : Span) ∧ Check.Agrees r (c.plan t).ending ∧
      (observe c ahead p [.ended t (c.plan t).ending]).1 = p.send ahead r ∧
      ∀ (s : Service) (id : MonitorId) (answers : Monitor → Answer), s.find? id = some t.work →
        answers t.work = probe.answer →
          s.trigger id c.threshold answers = (s.report r, .ok (some r))) := by
  intro probe course after
  have describes : ∀ r, course.result = some r → r.Describes t.work := by
    intro r found
    by_cases cut : Check.Cut probe cancelledAfter
    · cases (Check.execute_cut cut).symm.trans found
      exact Check.cancelled_describes
    · simp only [course, Check.execute_uncut cut] at found
      exact Check.judge_describes found
  refine ⟨Check.execute_probed, ?_, ?_, ?_⟩
  · by_cases cut : Check.Cut probe cancelledAfter
    · simp [course, Check.execute_cut cut, cut]
    · simp only [course, Check.execute_uncut cut, Check.judge_eq_none_iff, cut, not_false_eq_true,
        true_and]
  · intro r found
    simp only [after, conduct_eq found]
    refine ⟨send_waiting p ahead r, describes r found,
      ⟨_, rfl, Check.agrees_endingOf (describes r found)⟩, ?_, ?_⟩
    · intro cut
      cases (Check.execute_cut cut).symm.trans found
      exact ⟨rfl, rfl⟩
    · intro cut
      simp only [course, Check.execute_uncut cut] at found
      exact Check.judge_reflects found
  · intro r judged
    refine ⟨rfl, ?_, ?_, ?_⟩
    · rw [plan_ending judged]
      exact Check.agrees_endingOf (Check.judge_describes judged)
    · rw [observe_ended, conduct_eq judged]
    · intro s id answers stored same
      rw [trigger_eq_conduct stored same, conduct_eq judged, judged]
      rfl

/-- A service with one monitor. -/
def watching (m : Monitor) : Service where
  pipeline := { inbox := { recorder := Recorder.ofCapacity 1 } }
  queue := "health"
  monitors := [m]

/-- A probe that takes five seconds. Cut off after one of them, the monitor is down; left alone it
is up, as a trigger says too. -/
theorem slow_check_cut_off_or_not :
    let t := Ledger.monitor.task 0
    let s := watching Ledger.monitor
    let course := Check.execute Ledger.slow.threshold t.work (Ledger.slow.probe t.work t.run)
    (∃ r, (course (some (Duration.ofSeconds 1))).result = some r ∧ r.status = .down) ∧
      ∃ r, (course none).result = some r ∧ r.status = .up ∧
        (s.trigger t.work.id Ledger.slow.threshold fun m => (Ledger.slow.probe m t.run).answer).2 =
          .ok (some r) := by
  intro t s course
  have cut : Check.Cut (Ledger.slow.probe t.work t.run) (some (Duration.ofSeconds 1)) :=
    ⟨_, rfl, .inr (by decide)⟩
  have uncut : ¬ Check.Cut (Ledger.slow.probe t.work t.run) none := by
    rintro ⟨moment, never, _⟩
    cases never
  have interrupted := conduct_contract Ledger.slow 0 s.pipeline t (some (Duration.ofSeconds 1))
  have whole := conduct_contract Ledger.slow 0 s.pipeline t none
  refine ⟨⟨Check.cancelled t.work, rfl, ?_⟩, ⟨_, rfl, ?_, ?_⟩⟩
  · exact ((interrupted.2.2.1 _ rfl).2.2.2.1 cut).1
  · exact ((whole.2.2.1 _ rfl).2.2.2.2 uncut).2.1.mpr (by decide)
  · rw [(whole.2.2.2 _ rfl).2.2.2 s t.work.id _ rfl rfl]

end Pipeline

end Vigil
