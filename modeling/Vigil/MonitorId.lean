import Vigil.Text.CodeRanges
/-!
Identities of monitors: 128-bit numbers, written as 32 hexadecimal digits in groups of 8, 4, 4, 4
and 12.
-/

namespace Vigil

structure MonitorId where
  value : Nat
  deriving DecidableEq, Repr

namespace MonitorId

def nil : MonitorId := ⟨0⟩

/-- The last `width` hexadecimal digits of a number, most significant first. -/
def hexDigits : Nat → Nat → List Char
  | 0, _ => []
  | width + 1, n => hexDigits width (n / 16) ++ [Nat.digitChar (n % 16)]

/-- Put a hyphen between the groups. -/
def grouped (digits : List Char) : List Char :=
  digits.take 8 ++ '-' :: (digits.drop 8).take 4 ++ '-' :: (digits.drop 12).take 4 ++
    '-' :: (digits.drop 16).take 4 ++ '-' :: digits.drop 20

def text (id : MonitorId) : String := String.ofList (grouped (hexDigits 32 id.value))

/-- Read the written form, with digits in capitals or not. -/
def ofText? (s : String) : Option MonitorId :=
  let digits := s.toList.filter (· != '-')
  if digits.length = 32 ∧ s.toList = grouped digits ∧ digits.all (Text.hexDigit? · |>.isSome) then
    some ⟨Text.hexValue digits⟩
  else none

end MonitorId

end Vigil
