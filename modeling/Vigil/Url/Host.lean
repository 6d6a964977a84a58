import Vigil.Url.Address
import Vigil.Url.Domain
import Vigil.Url.ParseError
import Vigil.Url.Percent
/-!
Hosts. Those of the common schemes are domains or addresses, whatever spelling they come in; other
schemes leave their hosts uninterpreted but for bracketed addresses.
-/

namespace Vigil.Url

inductive Host where
  | domain (name : List Char)
  | ipv4 (address : Nat)
  | ipv6 (groups : List Nat)
  /-- Percent-encoded, and not interpreted further. -/
  | uninterpreted (name : List Char)
  deriving DecidableEq, Repr

namespace Host

def text : Host → String
  | domain name | uninterpreted name => String.ofList name
  | ipv4 address => IPv4.text address
  | ipv6 groups => "[" ++ IPv6.text groups ++ "]"

/-- A bracketed address, whose opening bracket is gone already. -/
def bracketed (rest : List Char) : Except ParseError Host :=
  if rest.getLast? = some ']' then
    ((IPv6.parse? rest.dropLast).map ipv6).elim (.error .invalidIPv6) .ok
  else .error .invalidIPv6

/-- The host of a URL with one of the common schemes. -/
def parse (cs : List Char) : Except ParseError Host :=
  match cs with
  | '[' :: rest => bracketed rest
  | _ =>
    match Domain.ofBytes? (Percent.decode cs) with
    | none => .error .invalidDomain
    | some [] => .error .emptyHost
    | some name =>
      if IPv4.isMeant name then ((IPv4.parse? name).map ipv4).elim (.error .invalidIPv4) .ok
      else .ok (domain name)

/-- Characters that no uninterpreted host may hold. -/
def isForbidden (c : Char) : Bool := "\x00\t\n\r #/:<>?@[\\]^|".contains c

/-- The host of a URL with another scheme. -/
def parseUninterpreted (cs : List Char) : Except ParseError Host :=
  match cs with
  | '[' :: rest => bracketed rest
  | _ =>
    if cs.any isForbidden then .error .invalidHostCharacter
    else .ok (uninterpreted (Percent.encode Percent.control cs))

end Host

end Vigil.Url
