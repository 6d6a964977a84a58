import Vigil.Log
import Vigil.SchedulingError
import Vigil.Scheduler.Execution
import Vigil.Task
/-!
What happens in a scheduler, as values: notices are what it reports about itself, events are
notices and the course of the executions it runs.
-/

namespace Vigil

inductive Notice where
  | queueExists (queue : String)
  | queueAdded (queue : String)
  | loopStarted (queue : String)
  | loopStopped (queue : String) (why : SchedulingError)
  | queueClosed (discarded : Nat)
  | queueRemoved (queue : String) (discarded : Nat)
  | queueShut (queue : String) (discarded : Nat)
  | registered (queue id : String)
  | rekeyed (queue id : String)
  | updated (queue id : String)
  | removed (queue id : String)
  | queueMissing (queue id : String)
  | dispatching (queue id : String)
  | executed (id : String)
  | executionFailed (id : String) (why : String)
  | recovered (id : String) (panic : String)
  | rescheduled (queue id : String)
  | revoked (queue id : String)
  | notRescheduled (queue id : String) (why : SchedulingError)
  | stopped
  deriving DecidableEq, Repr

namespace Notice

open Log

private def about (queue id : String) : List (String × Value) :=
  [("queue", .text queue), ("task_id", .text id)]

/-- A notice as it is written to the log. -/
def record : Notice → Record
  | queueExists q => ⟨.warn, "Queue already exists", [("queue", .text q)]⟩
  | queueAdded q => ⟨.info, "Queue added to scheduler", [("queue", .text q)]⟩
  | loopStarted q => ⟨.debug, "Dispatch loop started", [("queue", .text q)]⟩
  | loopStopped q why =>
    ⟨.info, "Queue shutting down", [("queue", .text q), ("reason", .text why.message)]⟩
  | queueClosed n => ⟨.debug, "Task queue closed", [("discarded", .number n)]⟩
  | queueRemoved q n =>
    ⟨.info, "Queue removed from scheduler", [("queue", .text q), ("discarded", .number n)]⟩
  | queueShut q n =>
    ⟨.debug, "Queue closed for shutdown", [("queue", .text q), ("discarded", .number n)]⟩
  | registered q id => ⟨.debug, "Task registered", about q id⟩
  | rekeyed q id => ⟨.debug, "Task already queued, due time updated", about q id⟩
  | updated q id => ⟨.info, "Task updated", about q id⟩
  | removed q id => ⟨.info, "Task removed", about q id⟩
  | queueMissing q id => ⟨.warn, "Queue not found when removing task", about q id⟩
  | dispatching q id => ⟨.debug, "Dispatching task", about q id⟩
  | executed id => ⟨.debug, "Task executed", [("task_id", .text id)]⟩
  | executionFailed id why =>
    ⟨.error, "Task execution failed: " ++ why, [("task_id", .text id)]⟩
  | recovered id panic =>
    ⟨.error, "Recovered from panic in task", [("task_id", .text id), ("panic", .text panic)]⟩
  | rescheduled q id => ⟨.debug, "Task rescheduled", about q id⟩
  | revoked q id => ⟨.debug, "Task removed while executing, not rescheduled", about q id⟩
  | notRescheduled q id why =>
    ⟨.warn, "Failed to reschedule task: " ++ why.message, about q id⟩
  | stopped => ⟨.info, "Scheduler stopped", []⟩

/-- How an ended execution is reported. -/
def ofEnding (id : String) : Ending → Notice
  | .completed => executed id
  | .failed causes => executionFailed id (Ending.chain causes)
  | .panicked said => recovered id (said.getD "unknown panic")

/-- How an execution that outlived its limit is reported. -/
def ofTimeout (id : String) (limit : Nat) : Notice :=
  executionFailed id ("execution timed out after " ++ Duration.text limit)

end Notice

/-- Something that happened at one instant. -/
inductive Event (ω : Type) where
  | notice (n : Notice)
  | started (task : Task ω)
  | ended (task : Task ω) (ending : Ending)
  /-- The execution was cut off at the time limit. -/
  | dropped (task : Task ω)
  /-- Whoever watches a cut-off execution's token learns of it. -/
  | cancelled (task : Task ω)

end Vigil
