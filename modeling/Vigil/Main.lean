import Vigil.Config.File
import Vigil.Log.Filter
import Vigil.Options
import Vigil.Orchestrator
/-!
The command line. It loads the configuration, writing the defaults where there is no file, and
shows what the service starts with.
-/

namespace Vigil.Main

def environment : IO Config.Environment := do
  return {
    configHome := ← IO.getEnv "XDG_CONFIG_HOME"
    home := ← IO.getEnv "HOME"
    logLevel := ← IO.getEnv "LOG_LEVEL" }

/-- What a path leads to on disk. -/
def find? (p : Path) : IO (Option Entry) := do
  try
    return some (.file (some (← IO.FS.readFile p.text)))
  catch
    | .noFileOrDirectory .. => return none
    | _ => return some (.file none)

def save (p : Path) (c : Config) : IO (Except Config.FileError Unit) := do
  match c.write? with
  | none => return .error .inexpressible
  | some text =>
    try
      unless p.parent.steps.isEmpty do IO.FS.createDirAll p.parent.text
      IO.FS.writeFile p.text text
      return .ok ()
    catch _ => return .error (.unwritable p)

def load (e : Config.Environment) (given : Option Path) : IO (Except Config.FileError Config) := do
  match Config.path? e given with
  | none => return .error .pathUnavailable
  | some p =>
    match ← find? p with
    | some entry => return Config.ofEntry p entry
    | none => return (← save p {}).map fun _ => {}

/-- Show what the service starts with; the exit code. -/
def start (o : Options) (e : Config.Environment) (c : Config) : IO UInt32 := do
  let c := c.applyEnvironment e
  if let some (.error why) := c.logging.format.map Log.Format.parse then
    IO.eprintln (why ++ ", using default log format")
  IO.println ("Log level: " ++ (Log.Filter.ofLevel c.logging.level).name)
  IO.println ("Log format: " ++ ((o.logFormat c).getD .compact).name)
  IO.print c.display
  match Orchestrator.ofConfig c with
  | .error defect =>
    IO.eprintln defect.message
    return 1
  | .ok orchestrator =>
    let (_, count) := orchestrator.loadSeeds fun n => ⟨n + 1⟩
    IO.println ("Monitoring " ++ toString count ++ " monitors")
    return 0

end Vigil.Main

def main (arguments : List String) : IO UInt32 := do
  match Vigil.Options.ofArguments? arguments with
  | none =>
    IO.eprintln Vigil.Options.usage
    return 2
  | some o =>
    let e ← Vigil.Main.environment
    match ← Vigil.Main.load e (o.config.map Vigil.Path.ofText) with
    | .error why =>
      IO.eprintln why.message
      return 1
    | .ok c => Vigil.Main.start o e c
