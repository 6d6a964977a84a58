import Vigil.Text.Blank
import Vigil.Text.Numeral
import Vigil.Text.CodeRanges
/-!
Addresses in the strict syntax of requests, which is not that of URLs: nothing is resolved or
encoded, a scheme may be missing, and an address may be a host and a port alone.
-/

namespace Vigil.Url

open Text

inductive AddressError where
  | empty
  | tooLong
  | schemeTooLong
  | badCharacter
  | badAuthority
  | badFormat
  deriving DecidableEq, Repr

def AddressError.message : AddressError → String
  | empty => "empty string"
  | tooLong => "uri too long"
  | schemeTooLong => "scheme too long"
  | badCharacter => "invalid uri character"
  | badAuthority => "invalid authority"
  | badFormat => "invalid format"

/-- The parts of an address that say where to connect to. -/
structure StrictAddress where
  scheme : Option String := none
  authority : Option (List Char) := none
  deriving DecidableEq, Repr

namespace StrictAddress

def maxLength : Nat := 65534

def maxScheme : Nat := 64

/-- Characters of an authority, a percent sign apart. -/
def inAuthority (c : Char) : Bool := c.isAlphanum || "!$&'()*+,-.:;=@[]_~".contains c

def inPath (c : Char) : Bool := c.toNat ≥ 0x7F || (0x20 < c.toNat && !"#?<>`".contains c)

def inQuery (c : Char) : Bool := c.toNat ≥ 0x7F || (0x20 < c.toNat && !"\"#<>".contains c)

def endsAuthority (c : Char) : Bool := c == '/' || c == '?' || c == '#'

/-- Cut the scheme and `://` off, if they are there. -/
def splitScheme (cs : List Char) : Except AddressError (Option String × List Char) :=
  match cs.span fun c => c.isAlphanum || c == '+' || c == '-' || c == '.' with
  | (scheme, ':' :: '/' :: '/' :: rest) =>
    if maxScheme < scheme.length then .error .schemeTooLong
    else .ok (some (lower (String.ofList scheme)), rest)
  | _ => .ok (none, cs)

/-- The part of an authority behind the last at sign. -/
def hostAndPort (authority : List Char) : List Char :=
  (authority.reverse.takeWhile (· != '@')).reverse

/-- Whether brackets stand around one address, and at most one colon is outside of them. -/
def bracketsFit (cs : List Char) : Bool :=
  let opened := cs.count '['
  let closed := cs.count ']'
  let beforeClose := cs.takeWhile (· != ']')
  opened == closed && opened ≤ 1 && (opened == 0 || beforeClose.contains '[') &&
    ((hostAndPort cs).reverse.takeWhile (· != ']')).count ':' ≤ 1 &&
    (opened == 0 || (beforeClose.count ':' ≤ 8))

def checkAuthority (authority : List Char) : Except AddressError Unit :=
  if authority.any fun c => !inAuthority c && c != '%' then .error .badCharacter
  else if !bracketsFit authority || authority.getLast? = some '@' ||
      (hostAndPort authority).contains '%' then .error .badAuthority
  else .ok ()

def checkRest (rest : List Char) : Except AddressError Unit :=
  let (path, query) := (rest.takeWhile (· != '#')).span (· != '?')
  if path.all inPath && (query.drop 1).all inQuery then .ok () else .error .badCharacter

def parse (s : String) : Except AddressError StrictAddress := do
  let cs := s.toList
  if cs.isEmpty then throw .empty
  if maxLength < s.utf8ByteSize then throw .tooLong
  if cs = ['*'] then return {}
  if cs.head? = some '/' then
    checkRest cs
    return {}
  let (scheme, body) ← splitScheme cs
  let (authority, rest) := body.span (!endsAuthority ·)
  checkAuthority authority
  match scheme with
  | none => if rest.isEmpty then return { authority := some authority } else throw .badFormat
  | some _ =>
    if authority.isEmpty then throw .badFormat
    checkRest rest
    return { scheme, authority := some authority }

/-- The host of an authority, a bracketed address with its brackets. -/
def hostOf (authority : List Char) : List Char :=
  match hostAndPort authority with
  | '[' :: rest => '[' :: rest.takeWhile (· != ']') ++ [']']
  | cs => cs.takeWhile (· != ':')

/-- The port behind the last colon of an authority. -/
def portOf? (authority : List Char) : Option Nat :=
  if authority.contains ':' then
    numeral? 65535 (authority.reverse.takeWhile (· != ':')).reverse
  else none

end StrictAddress

end Vigil.Url
