/-!
Log records: a level, a message and named fields. The program's notices are typed values of
their own; a record is what one of them looks like once written.
-/

namespace Vigil.Log

inductive Level where
  | debug | info | warn | error
  deriving DecidableEq, Repr

def Level.name : Level → String
  | .debug => "DEBUG"
  | .info => "INFO"
  | .warn => "WARN"
  | .error => "ERROR"

inductive Value where
  | text (s : String)
  | number (n : Nat)
  deriving DecidableEq, Repr

structure Record where
  level : Level
  message : String
  fields : List (String × Value) := []
  deriving DecidableEq, Repr

end Vigil.Log
