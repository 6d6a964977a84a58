import Vigil.CheckResult
import Vigil.Log
import Vigil.Monitor
import Vigil.Scheduler.Execution
import Vigil.Task
/-!
Checks of a monitor: who probes its target, and how what the probe says is turned into a result, a
log record and the ending of the execution.
-/

namespace Vigil

/-! Executors of checks, one for each protocol -/

namespace Executor

def http : Executor := ⟨0⟩

def tcp : Executor := ⟨1⟩

def webSocket : Executor := ⟨2⟩

/-- The check type of an executor's protocol. -/
def checkType (e : Executor) : CheckType :=
  if e = tcp then .tcp else if e = webSocket then .webSocket else .http

end Executor

/-- The executor for a check type. HTTP has one, with encryption and without. -/
def CheckType.executor : CheckType → Executor
  | .http | .https => .http
  | .tcp => .tcp
  | .webSocket => .webSocket

/-- A monitor as an executor takes it: each speaks its own protocol, whatever the check type. -/
def Monitor.seenBy (m : Monitor) (e : Executor) : Monitor :=
  if e = m.checkType.executor then m else { m with checkType := e.checkType }

/-! Probes -/

/-- What a probe of a target says. -/
inductive Answer where
  /-- The target answered after `latency` milliseconds, perhaps with a status code. -/
  | reached (latency : Nat) (statusCode : Option Nat)
  /-- It did not; the causes come outermost first. -/
  | failed (causes : List String)
  /-- The probe broke down. -/
  | broken (said : Option String)
  deriving DecidableEq, Repr

/-- A probe under way: it answers after `delay`. -/
structure Probe where
  delay : Nat := 0
  answer : Answer
  deriving DecidableEq, Repr

namespace Check

inductive Notice where
  | passed (result : CheckResult)
  | failed (monitor : MonitorId) (target : String) (why : String)
  /-- The receiver of results is gone. -/
  | unsent
  deriving DecidableEq

def Notice.record : Notice → Log.Record
  | passed r => ⟨.info, "Check passed",
      [("monitor_id", .text r.monitor.text), ("status", .text r.status.name),
        ("ms", .number (r.latency.getD 0))]⟩
  | failed m target why => ⟨.warn, "Check failed: " ++ why,
      [("monitor_id", .text m.text), ("target", .text target)]⟩
  | unsent => ⟨.warn, "Failed to send check result: channel closed", []⟩

/-- The result of a check before anything is known. -/
def blank (m : Monitor) : CheckResult :=
  { monitor := m.id, target := m.target, checkType := m.checkType }

/-- The result for an answer: slower than `threshold` milliseconds is degraded, and of a failure
only the outermost cause is kept. A probe that broke down has no result. -/
def judge (threshold : Nat) (m : Monitor) : Answer → Option CheckResult
  | .reached latency statusCode =>
    some (if threshold < latency then (blank m).degraded latency statusCode
      else (blank m).success latency statusCode)
  | .failed causes => some ((blank m).failure (causes.headD ""))
  | .broken _ => none

/-- The result of a check whose execution is cancelled. -/
def cancelled (m : Monitor) : CheckResult := (blank m).failure "check cancelled"

/-- What is logged about a result. -/
def noticeOf (m : Monitor) (r : CheckResult) : Notice :=
  if r.isDown then .failed m.id m.target (r.errorMessage.getD "check failed") else .passed r

/-- How an execution with this result ends. -/
def endingOf (r : CheckResult) : Ending :=
  if r.isDown then .failed [r.errorMessage.getD "check failed"] else .completed

/-- How a probe that is left alone ends its execution. -/
def ending (threshold : Nat) (m : Monitor) (a : Answer) : Ending :=
  match judge threshold m a, a with
  | some r, _ => endingOf r
  | none, .broken said => .panicked said
  | none, _ => .completed

/-- The course of a whole check whose token may be cancelled after a while. -/
structure Course where
  /-- Whether the probe was started at all. -/
  probed : Bool
  /-- How long the check took. -/
  elapsed : Nat
  result : Option CheckResult
  deriving DecidableEq

/-- Probe a target, giving up when the token is cancelled first. A token that is cancelled from the
outset keeps the probe from being started. If the probe ends at the very instant at which the token
is cancelled later on, its end is taken to come first; which of the two comes first is up to whoever
cancels, and an execution that sees both at once would give up. -/
def execute (threshold : Nat) (m : Monitor) (probe : Probe) (cancelledAfter : Option Nat) :
    Course :=
  match cancelledAfter with
  | some c =>
    if c = 0 then ⟨false, 0, some (cancelled m)⟩
    else if c < probe.delay then ⟨true, c, some (cancelled m)⟩
    else ⟨true, probe.delay, judge threshold m probe.answer⟩
  | none => ⟨true, probe.delay, judge threshold m probe.answer⟩

end Check

end Vigil
