import Vigil.Config
import Vigil.Log.Format
/-!
The options of the command line, and how the log is to be written under them.
-/

namespace Vigil

inductive Mode where
  | dev | prod
  deriving DecidableEq, Repr

namespace Mode

def name : Mode → String
  | dev => "dev"
  | prod => "prod"

def ofName? (s : String) : Option Mode := [dev, prod].find? (·.name == s)

end Mode

/-- The options that were given. -/
structure Options where
  mode : Option Mode := none
  /-- The path of the configuration's file. -/
  config : Option String := none
  deriving DecidableEq, Repr

namespace Options

def usage : String := "usage: vigil [--mode dev|prod] [--config FILE]"

/-- Add arguments to the options that were given before them. No option may be given twice. -/
def extend? (o : Options) : List String → Option Options
  | [] => some o
  | "--mode" :: word :: rest => do
    let mode ← Mode.ofName? word
    if o.mode.isSome then none else extend? { o with mode } rest
  | "--config" :: path :: rest | "-c" :: path :: rest =>
    if o.config.isSome then none else extend? { o with config := path } rest
  | _ => none

def ofArguments? (arguments : List String) : Option Options := extend? {} arguments

/-- How log records are written, if anything says so: the configured format as far as it is
understood, or else that of the mode. -/
def logFormat (o : Options) (c : Config) : Option Log.Format :=
  match c.logging.format with
  | some name => (Log.Format.parse name).toOption
  | none => if o.mode = some .prod then some .json else none

end Options

end Vigil
