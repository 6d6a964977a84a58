import Vigil.Text.Composition
import Vigil.Text.Direction
import Vigil.Text.Joining
import Vigil.Text.Mark
import Vigil.Text.Utf8
import Vigil.Url.Domain.Mapping
import Vigil.Url.Punycode
/-!
Domain names as hosts have them: in ASCII, in small letters, labels with other characters written
in Punycode behind `xn--`. A name is first brought into its standard form; its labels then have to
be ones that the standard form leaves alone.
-/

namespace Vigil.Url.Domain

open Text

/-- ASCII characters that no domain may hold. -/
def isDenied (c : Char) : Bool :=
  c.toNat ≤ 0x20 || c.toNat == 0x7F || "%#/:<>?@[\\]^|".contains c

def isAscii (label : List Char) : Bool := label.all (·.toNat < 0x80)

/-- Longest label that is written in Punycode, in characters. -/
def maxUnicodeLabel : Nat := 1000

/-- Longest text behind `xn--` that is read. -/
def maxEncodedLabel : Nat := 2000

/-- The standard form of a name, if no character forbids it. -/
def standardize? (cs : List Char) : Option (List Char) := (cs.mapM replace?).map (compose ·.flatten)

/-- Whether a label with characters beyond ASCII may stand in a name. -/
def isValidLabel (label : List Char) : Bool :=
  !label.any isDenied && !label.head?.any isMark && joinersFit [] label &&
    label.all fun c => replace? c == some [c]

/-- A label as it is shown and as it is looked up. -/
structure Label where
  shown : List Char
  ascii : List Char

/-- The part of a label behind `xn--`. -/
def encoded? : List Char → Option (List Char)
  | 'x' :: 'n' :: '-' :: '-' :: rest => some rest
  | _ => none

def label? (label : List Char) : Option Label :=
  match encoded? label with
  | some rest => do
    guard (isAscii label && rest.length ≤ maxEncodedLabel)
    let shown ← Punycode.decode? rest
    guard (!isAscii shown && isValidLabel shown && compose shown == shown)
    return ⟨shown, label⟩
  | none =>
    if isAscii label then if label.any isDenied then none else some ⟨label, label⟩
    else if isValidLabel label && label.length ≤ maxUnicodeLabel then
      some ⟨label, "xn--".toList ++ Punycode.encode label⟩
    else none

/-- The ASCII form of a name, if it has one. -/
def toAscii? (cs : List Char) : Option (List Char) := do
  let name ← standardize? cs
  let labels ← (splitOnP (· == '.') name).mapM label?
  let mixed := labels.any (·.shown.any fun c => (Direction.ofChar c).isRightward)
  guard (!mixed || labels.all (Direction.labelFits ·.shown))
  return ['.'].intercalate (labels.map (·.ascii))

/-- The ASCII form of a name given by the bytes of its UTF-8 form. -/
def ofBytes? (bytes : List Nat) : Option (List Char) := (Utf8.decode? bytes).bind toAscii?

end Vigil.Url.Domain
