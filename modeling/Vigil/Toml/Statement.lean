import Vigil.Toml.Moment
import Vigil.Toml.Table
import Vigil.Toml.Text
/-!
The statements of a TOML document: headers that open a table or add one to a list of tables, and
assignments. A reader takes a part from the front of a text and answers with the part and the rest.
-/

namespace Vigil.Toml

/-- Whether blanks and perhaps a comment are all that is left of the line; answers what follows. -/
def lineEnd? (inComment : Bool) : List Char → Option (List Char)
  | [] => some []
  | '\n' :: rest | '\r' :: '\n' :: rest => some rest
  | c :: rest =>
    if inComment then if Text.isPlain c then lineEnd? true rest else none
    else if Text.isBlank c then lineEnd? false rest
    else if c = '#' then lineEnd? true rest
    else none

/-- Skip blanks, comments and line ends. A comment has to end with its line. -/
def skipLines (inComment : Bool) : List Char → List Char
  | [] => []
  | '\n' :: rest | '\r' :: '\n' :: rest => skipLines false rest
  | c :: rest =>
    if inComment then if Text.isPlain c then skipLines true rest else c :: rest
    else if Text.isBlank c then skipLines false rest
    else if c = '#' then skipLines true rest
    else c :: rest

def skipBlanks (cs : List Char) : List Char := cs.dropWhile Text.isBlank

/-! Keys -/

def isBare (c : Char) : Bool := c.isAlphanum || c == '_' || c == '-'

/-- A single key, bare or quoted. -/
def key? (cs : List Char) : Option (String × List Char) :=
  match cs.span isBare with
  | ([], _) => (Text.readShort cs).map fun (text, rest) => (String.ofList text, rest)
  | (bare, rest) => some (String.ofList bare, rest)

/-- How many keys one path may have, and how deep values may be nested. -/
def maxDepth : Nat := 79

/-- At most so many keys with dots between. -/
def keyPath? : Nat → List Char → Option (List String × List Char)
  | 0, _ => none
  | n + 1, cs => do
    let (key, rest) ← key? (skipBlanks cs)
    match skipBlanks rest with
    | '.' :: rest =>
      let (keys, rest) ← keyPath? n rest
      return (key :: keys, rest)
    | rest => return ([key], rest)

def path? (cs : List Char) : Option (List String × List Char) := keyPath? maxDepth cs

/-! Values -/

abbrev Reader (α : Type) := List Char → Option (α × List Char)

def isTokenChar (c : Char) : Bool := isBare c || c == '+' || c == '.' || c == ':'

/-- What a word without quotes stands for. -/
def word? (cs : List Char) : Option Data :=
  if cs = "true".toList then some (.bool true)
  else if cs = "false".toList then some (.bool false)
  else if Moment.isMoment cs then some .moment
  else if Number.isFraction cs then some .real
  else (Number.int? cs).map .int

/-- Read a word. A date may have a time behind a single space. -/
def readWord : Reader Data := fun cs => do
  let (token, rest) := cs.span isTokenChar
  match Moment.isDate token, rest with
  | true, ' ' :: d :: more =>
    if d.isDigit then
      let (second, rest) := (d :: more).span isTokenChar
      if Moment.isTimeWithOffset second then some (.moment, rest) else none
    else some (.moment, rest)
  | _, _ => return (← word? token, rest)

/-- Read the elements of a list, with a comma behind each but perhaps the last, and its end. -/
def readItems (item : Reader Data) (cs : List Char) : Option (List Data × List Char) :=
  match skipLines false cs with
  | ']' :: rest => some ([], rest)
  | cs' =>
    match item cs' with
    | none => none
    | some (value, rest) =>
      match skipLines false rest with
      | ']' :: rest => some ([value], rest)
      | ',' :: rest =>
        if rest.length < cs.length then
          (readItems item rest).map fun (values, rest) => (value :: values, rest)
        else none
      | _ => none
termination_by cs.length

/-- Read the fields of a table on one line, behind the ones read so far, and its end. -/
def readFields (item : Reader Data) (fields : Fields) (cs : List Char) :
    Option (Fields × List Char) :=
  match path? cs with
  | some (path, '=' :: rest) =>
    match item (skipBlanks rest) with
    | none => none
    | some (value, rest) =>
      match fields.assign value path, skipBlanks rest with
      | some fields, '\x7d' :: rest => some (fields, rest)
      | some fields, ',' :: rest =>
        if rest.length < cs.length then readFields item fields rest else none
      | _, _ => none
  | _ => none
termination_by cs.length

/-- Read a value that is nested at most so deep. -/
def readValue : Nat → Reader Data
  | depth, cs =>
    match cs with
    | '"' :: _ | '\'' :: _ => (Text.read cs).map fun (text, rest) => (.text (String.ofList text), rest)
    | '[' :: rest =>
      match depth with
      | 0 => none
      | depth + 1 => (readItems (readValue depth) rest).map fun (items, rest) => (.list items, rest)
    | '\x7b' :: rest =>
      match depth with
      | 0 => none
      | depth + 1 =>
        match skipBlanks rest with
        | '\x7d' :: rest => some (.table [], rest)
        | _ =>
          (readFields (readValue depth) [] rest).map fun (fields, rest) =>
            (.table (Node.fieldsToData fields), rest)
    | _ => readWord cs

/-! Statements -/

inductive Statement where
  | openTable (path : List String)
  | openItem (path : List String)
  | assign (path : List String) (value : Data)

/-- Read one statement with the rest of its line. -/
def readStatement : Reader Statement := fun cs =>
  match cs with
  | '[' :: '[' :: rest => do
    match ← path? rest with
    | (path, ']' :: ']' :: rest) => return (.openItem path, ← lineEnd? false rest)
    | _ => none
  | '[' :: rest => do
    match ← path? rest with
    | (path, ']' :: rest) => return (.openTable path, ← lineEnd? false rest)
    | _ => none
  | _ => do
    match ← path? cs with
    | (path, '=' :: rest) =>
      let (value, rest) ← readValue maxDepth (skipBlanks rest)
      return (.assign path value, ← lineEnd? false rest)
    | _ => none

/-- Read all statements of a text. -/
def readStatements (cs : List Char) : Option (List Statement) :=
  match skipLines false cs with
  | [] => some []
  | cs' =>
    match readStatement cs' with
    | none => none
    | some (statement, rest) =>
      if rest.length < cs.length then (readStatements rest).map (statement :: ·) else none
termination_by cs.length

end Vigil.Toml
