import Vigil.Path
/-!
The files and directories below one root, and what following a path through them leads to. All
paths start at the root. Every step but the last has to go through a directory that exists, also
when the path comes back up.
-/

namespace Vigil

/-- Names of directories from the root down, and at the end the name of an entry. -/
abbrev Place := List String

inductive Entry where
  | directory
  /-- A file with its text, or with bytes that are no text. -/
  | file (text : Option String)
  deriving DecidableEq, Repr

structure FileTree where
  /-- What is below the root; places are unique. -/
  entries : List (Place × Entry) := []
  deriving DecidableEq, Repr

namespace FileTree

def lookup (t : FileTree) (place : Place) : Option Entry :=
  if place = [] then some .directory else (t.entries.find? (·.1 == place)).map (·.2)

/-- Put an entry in a place, instead of what was there. -/
def put (t : FileTree) (place : Place) (e : Entry) : FileTree :=
  { entries := t.entries.filter (·.1 != place) ++ [(place, e)] }

theorem lookup_put (t : FileTree) {place : Place} (h : place ≠ []) (e : Entry) (other : Place) :
    (t.put place e).lookup other = if other = place then some e else t.lookup other := by
  by_cases hr : other = []
  · subst hr; simp [lookup, Ne.symm h]
  · by_cases ho : other = place
    · have gone : (t.entries.filter (·.1 != place)).find? (·.1 == place) = none := by
        simp [List.find?_filter]
      simp only [lookup, put, List.find?_append, ho, h, gone, if_false]
      simp
    · have kept : (t.entries.filter (·.1 != place)).find? (·.1 == other) =
          t.entries.find? (·.1 == other) := by
        rw [List.find?_filter]
        congr 1
        funext x
        by_cases hx : x.1 = other <;> simp [hx, ho]
      simp [lookup, put, List.find?_append, kept, hr, ho, Ne.symm ho]

/-- Whether an entry can have this name: 255 bytes at most, none of them zero. -/
def isName (name : String) : Bool := name.utf8ByteSize ≤ 255 && !name.contains '\x00'

/-! Following a path -/

/-- The directory that one step leads to from an existing directory. The root is above itself. -/
def enter? (t : FileTree) (here : Place) : Path.Step → Option Place
  | .up => some here.dropLast
  | .down name =>
    if t.lookup (here ++ [name]) = some .directory then some (here ++ [name]) else none

/-- The directory that a path leads to. -/
def directory? (t : FileTree) (p : Path) : Option Place := p.steps.foldlM t.enter? []

/-- The place of the last name of a path in a directory that exists. -/
def place? (t : FileTree) (p : Path) : Option Place :=
  match p.steps.getLast? with
  | some (.down name) => (t.directory? p.parent).map (· ++ [name])
  | _ => t.directory? p

/-- What a path leads to, if there is anything. An empty path leads nowhere. -/
def find? (t : FileTree) (p : Path) : Option Entry :=
  if p.isEmpty then none
  else
    match (t.place? p).bind t.lookup with
    | some (.file text) => if p.forDirectory then none else some (.file text)
    | found => found

/-! Changing the tree -/

/-- Follow steps down from a directory, making the directories that are missing. Those that were
made stay when a later step fails. -/
def makeDirectoriesFrom (t : FileTree) (here : Place) : List Path.Step → FileTree × Bool
  | [] => (t, true)
  | .up :: rest => t.makeDirectoriesFrom here.dropLast rest
  | .down name :: rest =>
    match t.lookup (here ++ [name]) with
    | some .directory => t.makeDirectoriesFrom (here ++ [name]) rest
    | some (.file _) => (t, false)
    | none =>
      if isName name then
        (t.put (here ++ [name]) .directory).makeDirectoriesFrom (here ++ [name]) rest
      else (t, false)

/-- Make a directory and those above it; whether it is there in the end. -/
def makeDirectories (t : FileTree) (p : Path) : FileTree × Bool := t.makeDirectoriesFrom [] p.steps

/-- Write a file into a directory that exists, over a file that may be there. -/
def write? (t : FileTree) (p : Path) (text : Option String) : Option FileTree :=
  match p.steps.getLast?, t.place? p with
  | some (.down name), some place =>
    if p.forDirectory || !isName name || t.lookup place = some .directory then none
    else some (t.put place (.file text))
  | _, _ => none

end FileTree

end Vigil
