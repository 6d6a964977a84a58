/-!
Decimal numerals for numbers that are not negative: an optional plus sign and at least one ASCII
digit, any number of leading zeros, and a value within a bound.
-/

namespace Vigil.Text

/-- The value of a digit string after `acc`; nothing if another character occurs. -/
def digits? (acc : Nat) : List Char → Option Nat
  | [] => some acc
  | c :: rest => if c.isDigit then digits? (10 * acc + (c.toNat - '0'.toNat)) rest else none

/-- Read a numeral whose value is at most `max`. -/
def numeral? (max : Nat) (cs : List Char) : Option Nat :=
  let body := match cs with
    | '+' :: rest => rest
    | _ => cs
  if body.isEmpty then none else (digits? 0 body).filter (· ≤ max)

end Vigil.Text
