/-!
UTF-8: characters as sequences of one to four bytes, and back. Reading is strict: overlong forms,
surrogates and values past the last code point are refused.
-/

namespace Vigil.Text.Utf8

def encodeChar (c : Char) : List Nat :=
  let n := c.toNat
  if n < 0x80 then [n]
  else if n < 0x800 then [0xC0 + n / 0x40, 0x80 + n % 0x40]
  else if n < 0x10000 then [0xE0 + n / 0x1000, 0x80 + n / 0x40 % 0x40, 0x80 + n % 0x40]
  else [0xF0 + n / 0x40000, 0x80 + n / 0x1000 % 0x40, 0x80 + n / 0x40 % 0x40, 0x80 + n % 0x40]

def encode (cs : List Char) : List Nat := cs.flatMap encodeChar

/-- The low six bits of a continuation byte. -/
def continuation? (b : Nat) : Option Nat := if 0x80 ≤ b ∧ b < 0xC0 then some (b - 0x80) else none

/-- The character with a code point of at least `least`, if there is one. -/
def char? (least n : Nat) : Option Char :=
  if n.isValidChar ∧ least ≤ n then some (Char.ofNat n) else none

def decode? : List Nat → Option (List Char)
  | [] => some []
  | b :: rest =>
    if b < 0x80 then do
      let c ← char? 0 b
      let cs ← decode? rest
      some (c :: cs)
    else if b < 0xC0 then none
    else if b < 0xE0 then
      match rest with
      | b1 :: rest => do
        let x ← continuation? b1
        let c ← char? 0x80 ((b - 0xC0) * 0x40 + x)
        let cs ← decode? rest
        some (c :: cs)
      | _ => none
    else if b < 0xF0 then
      match rest with
      | b1 :: b2 :: rest => do
        let x ← continuation? b1
        let y ← continuation? b2
        let c ← char? 0x800 (((b - 0xE0) * 0x40 + x) * 0x40 + y)
        let cs ← decode? rest
        some (c :: cs)
      | _ => none
    else
      match rest with
      | b1 :: b2 :: b3 :: rest => do
        let x ← continuation? b1
        let y ← continuation? b2
        let z ← continuation? b3
        let c ← char? 0x10000 ((((b - 0xF0) * 0x40 + x) * 0x40 + y) * 0x40 + z)
        let cs ← decode? rest
        some (c :: cs)
      | _ => none

end Vigil.Text.Utf8
