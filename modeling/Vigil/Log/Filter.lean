import Vigil.Text.Blank
import Vigil.Text.Numeral
/-!
How much of the log is shown. A filter is named by a word, in capitals or not, or by a number from
0 to 5; whatever is not understood means `info`, and a blank name means `error`.
-/

namespace Vigil.Log

inductive Filter where
  | off | error | warn | info | debug | trace
  deriving DecidableEq, Repr

namespace Filter

def all : List Filter := [off, error, warn, info, debug, trace]

def name : Filter → String
  | off => "off"
  | error => "error"
  | warn => "warn"
  | info => "info"
  | debug => "debug"
  | trace => "trace"

/-- The filter a text names, if it names one. -/
def ofName? (s : String) : Option Filter :=
  match Text.numeral? 5 s.toList with
  | some n => all[n]?
  | none => if s.isEmpty then some error else all.find? (·.name == Text.lower s)

/-- The filter for a configured level. -/
def ofLevel (level : String) : Filter := (ofName? (Text.trim level)).getD info

end Filter

end Vigil.Log
