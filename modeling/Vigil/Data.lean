/-!
Documents as values, whatever the notation they were written in, and how records and choices are
read from them.

A record is a table of its fields in any order, unknown keys ignored, or a list of its fields in
order. A choice is the name of one of its cases, or a table whose only key is the name. Notations
differ in two points, which a `Dialect` states.
-/

namespace Vigil

inductive Data where
  | null
  | bool (b : Bool)
  | int (n : Int)
  /-- A number that is no integer, or too large for one. -/
  | real
  | text (s : String)
  /-- A date, a time or both. -/
  | moment
  | list (items : List Data)
  | table (fields : List (String × Data))
  deriving Inhabited, Repr

structure Dialect where
  /-- Whether a list that stands for a record may have more elements than the record has fields. -/
  allowsSurplus : Bool
  /-- What may stand beside the name in a table that stands for a choice. -/
  isVoid : Data → Bool

namespace Dialect

def json : Dialect where
  allowsSurplus := false
  isVoid
    | .null => true
    | _ => false

def toml : Dialect where
  allowsSurplus := true
  isVoid
    | .list [] | .table [] => true
    | _ => false

end Dialect

namespace Data

/-- The value of the first entry with this key. -/
def lookup (fields : List (String × Data)) (key : String) : Option Data :=
  (fields.find? (·.1 == key)).map (·.2)

/-- The values of a record's fields, as far as they are given. -/
def record? (d : Dialect) (keys : List String) : Data → Option (List (Option Data))
  | .table fields => some (keys.map (lookup fields))
  | .list items =>
    if d.allowsSurplus || items.length ≤ keys.length then
      some (List.ofFn fun i : Fin keys.length => items[i.val]?)
    else none
  | .moment => some (keys.map fun _ => none)
  | _ => none

/-- The name of a choice. -/
def choice? (d : Dialect) : Data → Option String
  | .text s => some s
  | .table [(name, value)] => if d.isVoid value then some name else none
  | _ => none

def text? : Data → Option String
  | .text s => some s
  | _ => none

def bool? : Data → Option Bool
  | .bool b => some b
  | _ => none

/-- A number from 0 to 2^64 - 1. -/
def nat? : Data → Option Nat
  | .int n => if 0 ≤ n ∧ n < 0x10000000000000000 then some n.toNat else none
  | _ => none

def list? : Data → Option (List Data)
  | .list items => some items
  | _ => none

/-- A value that may be null. -/
def nullable? {α : Type} (read : Data → Option α) : Data → Option (Option α)
  | .null => some none
  | d => (read d).map some

/-- A field that has to be there. -/
def required {α : Type} (read : Data → Option α) (field : Option Data) : Option α :=
  field.bind read

/-- A field with a default. -/
def defaulted {α : Type} (default : α) (read : Data → Option α) : Option Data → Option α
  | none => some default
  | some d => read d

end Data

end Vigil
