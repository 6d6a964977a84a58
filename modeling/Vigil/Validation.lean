import Vigil.Monitor
import Vigil.Text.Blank
import Vigil.Text.Numeral
import Vigil.Url
/-!
What a monitor has to look like to be accepted: a name, a target of the right form for its check
type, and an interval within bounds. The scheduler itself accepts any interval.
-/

namespace Vigil

/-- What is wrong with a request. -/
inductive Defect where
  | blankName
  | blankTarget
  /-- A TCP target without a host or without a port. -/
  | noHostAndPort
  | noNumber
  | portZero
  | badUrl (why : Url.ParseError)
  | noScheme (allowed : List String)
  | wrongScheme (scheme : String) (allowed : List String)
  | noHost
  | intervalTooShort (seconds : Nat)
  | intervalTooLong (seconds : Nat)
  | timeoutTooShort (seconds : Nat)
  | timeoutTooLong (seconds : Nat)
  deriving DecidableEq, Repr

namespace Validation

def minInterval : Nat := 10

def maxInterval : Nat := 86400

def minTimeout : Nat := 1

def maxTimeout : Nat := 300

end Validation

namespace Defect

open Validation

private def tooShort (what : String) (seconds least : Nat) : String :=
  what ++ " too short: " ++ toString seconds ++ " seconds (minimum: " ++ toString least ++ ")"

private def tooLong (what : String) (seconds most : Nat) : String :=
  what ++ " too long: " ++ toString seconds ++ " seconds (maximum: " ++ toString most ++ ")"

def message : Defect → String
  | blankName => "name cannot be empty"
  | blankTarget => "Target cannot be empty"
  | noHostAndPort => "TCP target must be in format host:port"
  | noNumber => "Invalid port number"
  | portZero => "Port 0 is not valid"
  | badUrl why => "Invalid URL: " ++ why.message
  | noScheme allowed => "URL must include scheme (" ++ ":// or ".intercalate allowed ++ "://)"
  | wrongScheme scheme allowed =>
    "Invalid scheme '" ++ scheme ++ "'. Must be " ++ " or ".intercalate allowed
  | noHost => "URL must have a valid host"
  | intervalTooShort n => tooShort "Check interval" n minInterval
  | intervalTooLong n => tooLong "Check interval" n maxInterval
  | timeoutTooShort n => tooShort "Timeout" n minTimeout
  | timeoutTooLong n => tooLong "Timeout" n maxTimeout

end Defect

namespace Validation

/-- Whether a text holds `://` somewhere. -/
def mentionsScheme : List Char → Bool
  | ':' :: '/' :: '/' :: _ => true
  | _ :: rest => mentionsScheme rest
  | [] => false

def checkPort (port : Nat) : Except Defect Unit :=
  if port = 0 then .error .portZero else .ok ()

/-- A URL with one of the allowed schemes, a host and, if any, a port that is not zero. -/
def checkUrl (allowed : List String) (target : String) : Except Defect Unit :=
  match Url.parse target with
  | .error e => .error (if mentionsScheme target.toList then .badUrl e else .noScheme allowed)
  | .ok url =>
    if url.scheme ∉ allowed then .error (.wrongScheme url.scheme allowed)
    else if !url.hasHost then .error .noHost
    else url.port.elim (.ok ()) checkPort

/-- A host and, behind the last colon, a port. -/
def checkHostAndPort (target : String) : Except Defect Unit :=
  match Url.splitLast? ':' target.toList with
  | none => .error .noHostAndPort
  | some (host, port) =>
    if host.isEmpty then .error .noHostAndPort
    else (Text.numeral? 65535 port).elim (.error .noNumber) checkPort

def checkTarget (target : String) (type : CheckType) : Except Defect Unit :=
  if Text.allBlank target then .error .blankTarget
  else
    match type with
    | .http => checkUrl ["http", "https"] target
    | .https => checkUrl ["https"] target
    | .webSocket => checkUrl ["ws", "wss"] target
    | .tcp => checkHostAndPort target

def checkInterval (seconds : Nat) : Except Defect Unit :=
  if seconds < minInterval then .error (.intervalTooShort seconds)
  else if maxInterval < seconds then .error (.intervalTooLong seconds)
  else .ok ()

def checkTimeout (seconds : Nat) : Except Defect Unit :=
  if seconds < minTimeout then .error (.timeoutTooShort seconds)
  else if maxTimeout < seconds then .error (.timeoutTooLong seconds)
  else .ok ()

def checkName (name : String) : Except Defect Unit :=
  if Text.allBlank name then .error .blankName else .ok ()

/-- The first thing that is wrong with a monitor, looking at name, target and interval in turn. -/
def checkMonitor (m : Monitor) : Except Defect Unit := do
  checkName m.name
  checkTarget m.target m.checkType
  checkInterval m.interval

end Validation

end Vigil
