import Vigil.Text.Blank
/-!
How log records are written out.
-/

namespace Vigil.Log

inductive Format where
  | compact | json
  deriving DecidableEq, Repr

namespace Format

def name : Format → String
  | compact => "Compact"
  | json => "Json"

/-- A format by its name; an unknown one is reported in small letters. -/
def parse (s : String) : Except String Format :=
  let word := Text.lower (Text.trim s)
  if word ∈ ["", "compact", "text"] then .ok compact
  else if word = "json" then .ok json
  else .error ("unknown log format: " ++ word)

end Format

end Vigil.Log
