import Vigil.Text.CodeRanges
/-!
Paths: steps down to a name or up again, read from texts in which slashes part the steps. A file
name's extension is what follows its last dot, unless nothing comes before the dot.
-/

namespace Vigil

inductive Path.Step where
  | up
  | down (name : String)
  deriving DecidableEq, Repr

structure Path where
  /-- Whether the path starts with a slash. -/
  absolute : Bool := false
  steps : List Path.Step
  /-- Whether the path ends in a slash or in a dot for "here", as only a directory's may. -/
  forDirectory : Bool := false
  deriving DecidableEq, Repr

namespace Path

/-- A part of a path's text as a step; an empty part and `.` lead nowhere. -/
def Step.ofPart? : List Char → Option Step
  | [] | ['.'] => none
  | ['.', '.'] => some .up
  | name => some (.down (String.ofList name))

def ofText (text : String) : Path :=
  let parts := Text.splitOnP (· == '/') text.toList
  { absolute := text.toList.head? == some '/'
    steps := parts.filterMap Step.ofPart?
    forDirectory := !text.isEmpty && (parts.getLast?.bind Step.ofPart?).isNone }

/-- Whether the path has no text at all, and so leads nowhere. -/
def isEmpty (p : Path) : Bool := !p.absolute && p.steps.isEmpty && !p.forDirectory

theorem isEmpty_eq_false {p : Path} {step : Step} (last : p.steps.getLast? = some step) :
    p.isEmpty = false := by
  have some_ : p.steps ≠ [] := fun none_ => by simp [none_] at last
  simp [isEmpty, some_]

def Step.text : Step → String
  | up => ".."
  | down name => name

/-- The path as a text without redundant parts. -/
def text (p : Path) : String :=
  if p.steps.isEmpty then if p.absolute then "/" else if p.forDirectory then "." else ""
  else
    (if p.absolute then "/" else "") ++ "/".intercalate (p.steps.map Step.text) ++
      if p.forDirectory then "/" else ""

/-- Follow `p`, then `q`, which starts anew if it is absolute. Joined with nothing, a path is a
directory's. -/
def join (p q : Path) : Path :=
  if q.absolute then q
  else
    { absolute := p.absolute
      steps := p.steps ++ q.steps
      forDirectory := q.forDirectory || q.isEmpty && !p.isEmpty }

/-- The path without its last step. -/
def parent (p : Path) : Path := { absolute := p.absolute, steps := p.steps.dropLast }

/-- The part of a file name before the extension, and the extension. -/
def splitExtension (name : String) : String × Option String :=
  let (after, rest) := name.toList.reverse.span (· != '.')
  match rest with
  | _ :: before@(_ :: _) => (String.ofList before.reverse, some (String.ofList after.reverse))
  | _ => (name, none)

/-- Make `extension` the extension of the file name, in place of another one. A path that ends in a
step up has no file name and stays as it is. -/
def withExtension (p : Path) (extension : String) : Path :=
  match p.steps.getLast? with
  | some (.down name) =>
    let (stem, old) := splitExtension name
    if old == some extension then p
    else
      let steps := p.steps.dropLast ++ [.down (stem ++ "." ++ extension)]
      { absolute := p.absolute, steps }
  | _ => p

end Path

end Vigil
