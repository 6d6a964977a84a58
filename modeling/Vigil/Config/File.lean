import Vigil.Config
import Vigil.FileTree
/-!
The configuration's file: where it is, reading it, and writing the defaults where none exists.
Loading writes that one file at most, and only if its path leads to nothing at first.
-/

namespace Vigil.Config

inductive FileError where
  | unreadable (path : Path)
  | unwritable (path : Path)
  /-- The text is no configuration. -/
  | malformed
  /-- An integer is too large to be written. -/
  | inexpressible
  | pathUnavailable
  deriving DecidableEq, Repr

def FileError.message : FileError → String
  | unreadable path => "failed to read config " ++ path.text
  | unwritable path => "failed to write config " ++ path.text
  | malformed => "failed to parse config"
  | inexpressible => "failed to serialize config: an integer is out of range"
  | pathUnavailable => "no config path available, set XDG_CONFIG_HOME or HOME"

/-- The extension of configuration files. -/
def extension : String := "toml"

/-- Where the file is if no path is given: below the directory for configurations, which is
`.config` in the home directory unless the environment names another. -/
def defaultPath? (e : Environment) : Option Path :=
  let directory := (e.configHome.map Path.ofText).or
    (e.home.map fun home => (Path.ofText home).join (.ofText ".config"))
  directory.map (·.join (.ofText "uptime/config.toml"))

/-- The file that a path given by the user means, or else the default one. -/
def path? (e : Environment) (given : Option Path) : Option Path :=
  match given with
  | some p => some (p.withExtension extension)
  | none => defaultPath? e

/-- Write the configuration to a file, making the directories above it. -/
def save (c : Config) (t : FileTree) (p : Path) : FileTree × Except FileError Unit :=
  match c.write? with
  | none => (t, .error .inexpressible)
  | some text =>
    let (t, made) := t.makeDirectories p.parent
    if made then
      match t.write? p (some text) with
      | some t => (t, .ok ())
      | none => (t, .error (.unwritable p))
    else (t, .error (.unwritable p.parent))

/-- The configuration in an entry found under `p`. -/
def ofEntry (p : Path) : Entry → Except FileError Config
  | .file (some text) => (read? text).elim (.error .malformed) .ok
  | _ => .error (.unreadable p)

/-- Load the configuration; if there is no file yet, write one with the defaults. -/
def load (e : Environment) (t : FileTree) (given : Option Path) : FileTree × Except FileError Config :=
  match path? e given with
  | none => (t, .error .pathUnavailable)
  | some p =>
    match t.find? p with
    | some entry => (t, ofEntry p entry)
    | none =>
      let (t, answer) := ({} : Config).save t p
      (t, answer.map fun _ => {})

end Vigil.Config
