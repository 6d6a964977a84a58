import Vigil.Toml.Statement
/-!
TOML documents: reading them as values, and writing tables of scalars and lists of such tables, a
section each.
-/

namespace Vigil.Toml

/-! Reading -/

/-- A document as far as it was read, and the table that assignments go to. -/
structure Draft where
  root : Fields := []
  current : List String := []

/-- Carry out a statement. -/
def Draft.apply? (d : Draft) : Statement → Option Draft
  | .assign path value => (d.root.within (·.assign value path) d.current).map ({ d with root := · })
  | .openTable path => open? (Fields.openTable) path
  | .openItem path => open? (Fields.openItem) path
where
  open? (f : String → Fields → Option Fields) (path : List String) : Option Draft := do
    let key ← path.getLast?
    let root ← d.root.within (f key) path.dropLast
    return { root, current := path }

/-- The value of a document. A byte order mark in front of it is passed over. -/
def read? (text : String) : Option Data := do
  let cs := match text.toList with
    | '\uFEFF' :: rest => rest
    | cs => cs
  let statements ← readStatements cs
  let draft ← statements.foldlM Draft.apply? {}
  return .table (Node.fieldsToData draft.root)

/-! Writing -/

inductive Scalar where
  | text (s : String)
  | int (n : Nat)
  | bool (b : Bool)
  deriving DecidableEq, Repr

structure Section where
  name : String
  /-- Whether the section is one of a list of tables. -/
  isItem : Bool := false
  fields : List (String × Scalar)
  deriving DecidableEq, Repr

/-- The largest integer that a document can hold, 2^63 - 1. -/
def maxInt : Nat := 0x7fffffffffffffff

namespace Scalar

def isWritable : Scalar → Bool
  | int n => n ≤ maxInt
  | _ => true

def write : Scalar → List Char
  | text s => Text.write s.toList
  | int n => Nat.toDigits 10 n
  | bool b => (if b then "true" else "false").toList

def toData : Scalar → Data
  | text s => .text s
  | int n => .int n
  | bool b => .bool b

end Scalar

namespace Section

def isWritable (s : Section) : Bool := s.fields.all (·.2.isWritable)

def header (s : Section) : List Char :=
  let name := s.name.toList
  if s.isItem then ['[', '['] ++ name ++ [']', ']', '\n'] else '[' :: name ++ [']', '\n']

def writeField (field : String × Scalar) : List Char :=
  field.1.toList ++ [' ', '=', ' '] ++ field.2.write ++ ['\n']

def write (s : Section) : List Char := s.header ++ s.fields.flatMap writeField

end Section

/-- Sections with an empty line between. -/
def writeSections (sections : List Section) : List Char :=
  ['\n'].intercalate (sections.map (·.write))

/-- The text of a document with these sections, if it can hold their integers. -/
def write? (sections : List Section) : Option String :=
  if sections.all (·.isWritable) then some (String.ofList (writeSections sections)) else none

end Vigil.Toml
