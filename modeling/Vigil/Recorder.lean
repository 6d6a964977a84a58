import Std.Data.ExtTreeMap
import Vigil.CheckResult
import Vigil.Log
import Vigil.Text.Quoted
/-!
The recorder keeps the most recent results of every tracked monitor. Results of monitors that are
not tracked are reported and dropped.
-/

namespace Vigil

open Std

inductive Recorder.Notice where
  | received (result : CheckResult)
  | dropped (monitor : MonitorId)
  | channelClosed
  deriving DecidableEq

structure Recorder where
  /-- Results kept per monitor; at least one is. -/
  capacity : Nat
  /-- The tracked monitors and their results, the oldest first. -/
  entries : ExtTreeMap Nat (List CheckResult) := ∅

namespace Recorder

def Notice.record : Notice → Log.Record
  | received r => ⟨.info, "Check result",
      [("monitor_id", .text r.monitor.text), ("target", .text r.target),
        ("status", .text r.status.name), ("latency_ms", .text (Text.optional toString r.latency)),
        ("status_code", .text (Text.optional toString r.statusCode)),
        ("error", .text (Text.optional Text.quoted r.errorMessage))]⟩
  | dropped m => ⟨.debug, "Dropping result of untracked monitor", [("monitor_id", .text m.text)]⟩
  | channelClosed => ⟨.debug, "Result channel closed, recorder stopping", []⟩

/-- Keep at most `capacity` results per monitor, and at least one. -/
def ofCapacity (capacity : Nat) : Recorder := { capacity := max capacity 1 }

def isTracked (r : Recorder) (m : MonitorId) : Bool := m.value ∈ r.entries

/-- The results of a monitor, the oldest first. -/
def history (r : Recorder) (m : MonitorId) : List CheckResult := (r.entries[m.value]?).getD []

/-- The most recent result of a monitor. -/
def latest (r : Recorder) (m : MonitorId) : Option CheckResult := (r.history m).getLast?

/-- Start keeping results of a monitor; what was kept before stays. -/
def track (r : Recorder) (m : MonitorId) : Recorder :=
  { r with entries := r.entries.insertIfNew m.value [] }

/-- Drop all results of a monitor and stop keeping them. -/
def forget (r : Recorder) (m : MonitorId) : Recorder :=
  { r with entries := r.entries.erase m.value }

/-- The window after one more result. -/
def push (capacity : Nat) (window : List CheckResult) (result : CheckResult) : List CheckResult :=
  (if window.length = capacity then window.drop 1 else window) ++ [result]

def record (r : Recorder) (result : CheckResult) : Recorder × List Notice :=
  match r.entries[result.monitor.value]? with
  | some window =>
    ({ r with entries := r.entries.insert result.monitor.value (push r.capacity window result) },
      [.received result])
  | none => (r, [.received result, .dropped result.monitor])

/-- Record results in the order in which they were sent. -/
def recordAll (r : Recorder) : List CheckResult → Recorder × List Notice
  | [] => (r, [])
  | result :: rest =>
    let (r', first) := r.record result
    let (final, later) := r'.recordAll rest
    (final, first ++ later)

end Recorder

end Vigil
