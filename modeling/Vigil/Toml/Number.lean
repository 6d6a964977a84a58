import Vigil.Text.CodeRanges
/-!
Numbers in TOML: integers of 64 bits with a sign, in four bases, and decimal fractions. Digits may
be kept apart by single underscores.
-/

namespace Vigil.Toml.Number

/-- The digits of a number, if underscores stand between digits alone. -/
def digits? (isDigit : Char → Bool) : List Char → Option (List Char)
  | [] => none
  | c :: rest =>
    if isDigit c then
      match rest with
      | [] => some [c]
      | '_' :: more => (digits? isDigit more).map (c :: ·)
      | more => (digits? isDigit more).map (c :: ·)
    else none

/-- The value of digits in a base. -/
def value (base : Nat) (digits : List Char) : Nat :=
  digits.foldl (fun acc c => base * acc + (Vigil.Text.hexDigit? c).getD 0) 0

/-- A sign, if there is one, and the rest. -/
def splitSign : List Char → Bool × List Char
  | '-' :: rest => (true, rest)
  | '+' :: rest => (false, rest)
  | cs => (false, cs)

/-- The digits of a decimal number, which has no leading zeros. -/
def decimal? (cs : List Char) : Option (List Char) :=
  (digits? Char.isDigit cs).filter fun ds => ds.length == 1 || ds.head? != some '0'

/-- Digits in a base as a number with a sign in 64 bits. -/
def based? (base : Nat) (isDigit : Char → Bool) (cs : List Char) : Option Int :=
  (digits? isDigit cs).bind fun ds =>
    let n := value base ds
    if n < 0x8000000000000000 then some n else none

def isHex (c : Char) : Bool := (Vigil.Text.hexDigit? c).isSome

def int? (cs : List Char) : Option Int :=
  match cs with
  | '0' :: 'x' :: rest => based? 16 isHex rest
  | '0' :: 'o' :: rest => based? 8 (fun c => '0' ≤ c && c ≤ '7') rest
  | '0' :: 'b' :: rest => based? 2 (fun c => c == '0' || c == '1') rest
  | _ =>
    let (negative, body) := splitSign cs
    (decimal? body).bind fun ds =>
      let n : Int := if negative then -(value 10 ds : Int) else value 10 ds
      if -0x8000000000000000 ≤ n ∧ n < 0x8000000000000000 then some n else none

/-- Whether `n` times ten to the power `scale` is too large for a fraction in double precision. -/
def overflows (n : Nat) (scale : Int) : Bool :=
  let limit := Nat.pow 2 1024 - Nat.pow 2 970
  let magnitude : Int := (Nat.toDigits 10 n).length + scale
  if n = 0 ∨ magnitude < 300 then false
  else if 400 < magnitude then true
  else if 0 ≤ scale then limit ≤ n * Nat.pow 10 scale.toNat
  else limit * Nat.pow 10 (-scale).toNat ≤ n

/-- The exponent behind an `e`, or zero if there is none. -/
def exponent? (cs : List Char) : Option Int :=
  match cs with
  | [] => some 0
  | _ :: rest =>
    let (negative, body) := splitSign rest
    (digits? Char.isDigit body).map fun ds => if negative then -(value 10 ds : Int) else value 10 ds

/-- Whether a text is a fraction, or one of the words for infinity and no number. A positive
number may not be so large that only infinity is left of it. -/
def isFraction (cs : List Char) : Bool :=
  let (negative, body) := splitSign cs
  let isE (c : Char) : Bool := c == 'e' || c == 'E'
  let (mantissa, exponent) := body.span (!isE ·)
  let (whole, fraction) := mantissa.span (· != '.')
  let parts : Option (List Char × List Char) := do
    let whole ← decimal? whole
    let fraction ← match fraction with
      | [] => if exponent.isEmpty then none else some []
      | _ :: rest => digits? Char.isDigit rest
    some (whole, fraction)
  match parts, exponent? exponent with
  | some (whole, fraction), some e =>
    negative || !overflows (value 10 (whole ++ fraction)) (e - fraction.length)
  | _, _ => body == "inf".toList || body == "nan".toList

end Vigil.Toml.Number
