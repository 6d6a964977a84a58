import Vigil.Text.CodeRanges
import Vigil.Text.Utf8
/-!
Percent-encoding: which characters of which part of a URL are written as the bytes of their UTF-8
form, and how such bytes are read back.
-/

namespace Vigil.Url.Percent

/-- Controls and everything outside ASCII. -/
def control (c : Char) : Bool := c.toNat < 0x20 || 0x7E < c.toNat

def inFragment (c : Char) : Bool := control c || " \"<>`".contains c

def inQuery (c : Char) : Bool := control c || " \"#<>".contains c

/-- Queries of the common schemes. -/
def inSpecialQuery (c : Char) : Bool := inQuery c || c == '\''

def inPath (c : Char) : Bool := inQuery c || "?`\x7b\x7d".contains c

def inUserInfo (c : Char) : Bool := inPath c || "/:;=@[\\]^|".contains c

/-- A byte as a percent sign and two capital hexadecimal digits. -/
def byte (b : Nat) : List Char :=
  ['%', (Nat.digitChar (b / 16)).toUpper, (Nat.digitChar (b % 16)).toUpper]

/-- Write the characters of a class as bytes and leave the others alone. -/
def encode (p : Char → Bool) (cs : List Char) : List Char :=
  cs.flatMap fun c => if p c then (Text.Utf8.encodeChar c).flatMap byte else [c]

/-- The bytes of a text, with each percent sign before two hexadecimal digits resolved. -/
def decode : List Char → List Nat
  | [] => []
  | '%' :: a :: b :: rest =>
    match Text.hexDigit? a, Text.hexDigit? b with
    | some x, some y => (16 * x + y) :: decode rest
    | _, _ => 0x25 :: decode (a :: b :: rest)
  | c :: rest => Text.Utf8.encodeChar c ++ decode rest

end Vigil.Url.Percent
