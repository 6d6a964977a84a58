/-!
Why an operation on a queue or on the scheduler is refused. Failed executions are not errors of
this kind: they are contained in the execution and only ever logged.
-/

namespace Vigil

inductive SchedulingError where
  | queueNotFound (queue : String)
  | duplicateTask (id : String)
  | taskNotFound (id : String)
  | queueClosed
  | cancelled
  deriving DecidableEq, Repr

namespace SchedulingError

def message : SchedulingError → String
  | queueNotFound queue => "queue not found: " ++ queue
  | duplicateTask id => "task already queued: " ++ id
  | taskNotFound id => "task not found: " ++ id
  | queueClosed => "queue closed"
  | cancelled => "operation cancelled"

/-- Whether a dispatch loop that meets the error has to stop. -/
def isTerminal : SchedulingError → Bool
  | queueClosed | cancelled => true
  | _ => false

end SchedulingError

end Vigil
