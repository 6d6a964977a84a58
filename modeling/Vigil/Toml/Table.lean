import Vigil.Data
/-!
Tables of a TOML document under construction. What was defined once cannot be defined again, but
assignments may extend a table that dotted keys made, and headers one that only longer headers have
mentioned so far.
-/

namespace Vigil.Toml

/-- What a key stands for. A table is implicit if no header has opened it, and dotted if dotted keys
made it. -/
inductive Node where
  | leaf (value : Data)
  | table (implicit dotted : Bool) (fields : List (String × Node))
  /-- Tables added by headers, the latest first. -/
  | tables (items : List (List (String × Node)))

abbrev Fields := List (String × Node)

namespace Fields

def get? (fields : Fields) (key : String) : Option Node := (fields.find? (·.1 == key)).map (·.2)

/-- Put a node in the place of the one that has its key. -/
def put (fields : Fields) (key : String) (node : Node) : Fields :=
  fields.map fun (k, old) => if k == key then (k, node) else (k, old)

def add (fields : Fields) (key : String) (node : Node) : Fields := fields ++ [(key, node)]

/-- Change the fields of a table below the path, which is made if it is missing. -/
def within (f : Fields → Option Fields) : List String → Fields → Option Fields
  | [], fields => f fields
  | key :: path, fields =>
    match fields.get? key with
    | none => (within f path []).map fun sub => fields.add key (.table true false sub)
    | some (.table implicit dotted sub) =>
      (within f path sub).map fun sub => fields.put key (.table implicit dotted sub)
    | some (.tables (latest :: earlier)) =>
      (within f path latest).map fun sub => fields.put key (.tables (sub :: earlier))
    | some (.tables []) | some (.leaf _) => none

/-- Assign a value to a path of keys. -/
def assign (value : Data) : List String → Fields → Option Fields
  | [], _ => none
  | [key], fields =>
    match fields.get? key with
    | none => some (fields.add key (.leaf value))
    | some _ => none
  | key :: next :: path, fields =>
    match fields.get? key with
    | none => (assign value (next :: path) []).map fun sub => fields.add key (.table true true sub)
    | some (.table true dotted sub) =>
      if !dotted && path.isEmpty then none
      else (assign value (next :: path) sub).map fun sub => fields.put key (.table true dotted sub)
    | some (.tables (latest :: earlier)) =>
      if path.isEmpty then none
      else (assign value (next :: path) latest).map fun sub => fields.put key (.tables (sub :: earlier))
    | _ => none

/-- Open a table for a header. -/
def openTable (key : String) (fields : Fields) : Option Fields :=
  match fields.get? key with
  | none => some (fields.add key (.table false false []))
  | some (.table true false sub) => some (fields.put key (.table false false sub))
  | _ => none

/-- Add a table to a list of tables for a header. -/
def openItem (key : String) (fields : Fields) : Option Fields :=
  match fields.get? key with
  | none => some (fields.add key (.tables [[]]))
  | some (.tables items) => some (fields.put key (.tables ([] :: items)))
  | _ => none

end Fields

mutual

def Node.toData : Node → Data
  | .leaf value => value
  | .table _ _ fields => .table (Node.fieldsToData fields)
  | .tables items => .list (Node.itemsToData items).reverse

def Node.fieldsToData : List (String × Node) → List (String × Data)
  | [] => []
  | (key, node) :: rest => (key, node.toData) :: Node.fieldsToData rest

def Node.itemsToData : List (List (String × Node)) → List Data
  | [] => []
  | fields :: rest => .table (Node.fieldsToData fields) :: Node.itemsToData rest

end

end Vigil.Toml
