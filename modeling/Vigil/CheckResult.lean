import Vigil.CheckType
import Vigil.MonitorId
/-!
What a check found out about a monitor.
-/

namespace Vigil

inductive CheckStatus where
  | up | down | degraded | unknown
  deriving DecidableEq, Repr

def CheckStatus.name : CheckStatus → String
  | up => "up"
  | down => "down"
  | degraded => "degraded"
  | unknown => "unknown"

structure CheckResult where
  monitor : MonitorId
  target : String
  checkType : CheckType
  status : CheckStatus := .unknown
  /-- In milliseconds. -/
  latency : Option Nat := none
  statusCode : Option Nat := none
  errorMessage : Option String := none
  deriving DecidableEq, Repr

namespace CheckResult

def success (r : CheckResult) (latency : Nat) (statusCode : Option Nat) : CheckResult :=
  { r with status := .up, latency := some latency, statusCode }

/-- The endpoint answered, but slowly. -/
def degraded (r : CheckResult) (latency : Nat) (statusCode : Option Nat) : CheckResult :=
  { r with status := .degraded, latency := some latency, statusCode }

def failure (r : CheckResult) (message : String) : CheckResult :=
  { r with status := .down, errorMessage := some message }

def isDown (r : CheckResult) : Bool := r.status == .down

end CheckResult

end Vigil
