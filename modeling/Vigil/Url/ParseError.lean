/-!
Why a text is no URL.
-/

namespace Vigil.Url

inductive ParseError where
  | emptyHost
  | invalidDomain
  | invalidPort
  | invalidIPv4
  | invalidIPv6
  | invalidHostCharacter
  | relative
  deriving DecidableEq, Repr

def ParseError.message : ParseError → String
  | emptyHost => "empty host"
  | invalidDomain => "invalid international domain name"
  | invalidPort => "invalid port number"
  | invalidIPv4 => "invalid IPv4 address"
  | invalidIPv6 => "invalid IPv6 address"
  | invalidHostCharacter => "invalid domain character"
  | relative => "relative URL without a base"

end Vigil.Url
