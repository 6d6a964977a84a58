/-!
Punycode: any text as ASCII letters, digits and hyphens. The ASCII characters come first; behind
the last hyphen stand numbers, in a notation of variable length, that say which other character is
inserted where, in the order of their code points.
-/

namespace Vigil.Url.Punycode

/-- The factor between weights at a position, given what the previous numbers were like. -/
def threshold (k bias : Nat) : Nat := max 1 (min 26 (k - bias))

/-- How numbers to come are expected to be, given the last one. -/
def adapt (delta length : Nat) (first : Bool) : Nat :=
  let delta := if first then delta / 700 else delta / 2
  spread 0 (delta + delta / length)
where
  spread (k delta : Nat) : Nat :=
    if 455 < delta then spread (k + 36) (delta / 35) else k + 36 * delta / (delta + 38)
  termination_by delta

def digit (n : Nat) : Char :=
  if n < 26 then Char.ofNat ('a'.toNat + n) else Char.ofNat ('0'.toNat + (n - 26))

def digitValue? (c : Char) : Option Nat :=
  if c.isDigit then some (c.toNat - '0'.toNat + 26)
  else if c.isLower then some (c.toNat - 'a'.toNat)
  else if c.isUpper then some (c.toNat - 'A'.toNat)
  else none

/-- A number from the position `k` on. -/
def number (bias k q : Nat) : List Char :=
  let t := threshold k bias
  if q < t then [digit q]
  else digit (t + (q - t) % (36 - t)) :: number bias (k + 36) ((q - t) / (36 - t))
termination_by q
decreasing_by
  have ht : 1 ≤ threshold k bias := Nat.le_max_left ..
  have hq : (q - threshold k bias) / (36 - threshold k bias) ≤ q - threshold k bias :=
    Nat.div_le_self ..
  omega

structure Encoder where
  out : List Char
  /-- How far the insertion point moved since the last insertion. -/
  delta : Nat := 0
  bias : Nat := 72
  /-- How many characters are there already. -/
  handled : Nat
  first : Bool := true

/-- Insert every occurrence of one code point. -/
def Encoder.insert (cs : List Char) (e : Encoder) (c : Char) : Encoder :=
  cs.foldl (fun e d =>
    if d < c then { e with delta := e.delta + 1 }
    else if d = c then
      { out := e.out ++ number e.bias 36 e.delta
        delta := 0
        bias := adapt e.delta (e.handled + 1) e.first
        handled := e.handled + 1
        first := false }
    else e) e

/-- Insert code points in ascending order; `next` is the least one not dealt with. -/
def encodeFrom (cs : List Char) (e : Encoder) (next : Nat) : List Char → List Char
  | [] => e.out
  | c :: rest =>
    let e := { e with delta := e.delta + (c.toNat - next) * (e.handled + 1) }
    let e := e.insert cs c
    encodeFrom cs { e with delta := e.delta + 1 } (c.toNat + 1) rest

def encode (cs : List Char) : List Char :=
  let basic := cs.filter (·.toNat < 0x80)
  let others := ((cs.filter (0x80 ≤ ·.toNat)).mergeSort (· ≤ ·)).eraseDups
  let out := if basic.isEmpty then [] else basic ++ ['-']
  encodeFrom cs { out, handled := basic.length } 0x80 others

structure Decoder where
  out : List Char
  code : Nat := 0x80
  bias : Nat := 72
  /-- Where the last insertion left the insertion point. -/
  start : Nat := 0
  /-- The number read so far, the weight of its next digit, and the position of that digit. -/
  value : Nat := 0
  weight : Nat := 1
  k : Nat := 36

/-- Take one digit, and insert a character if it was the last of a number. -/
def Decoder.step? (d : Decoder) (c : Char) : Option Decoder := do
  let n ← digitValue? c
  let value := d.value + n * d.weight
  let t := threshold d.k d.bias
  if t ≤ n then some { d with value, weight := d.weight * (36 - t), k := d.k + 36 }
  else
    let length := d.out.length + 1
    let code := d.code + value / length
    let place := value % length
    if code.isValidChar then
      some { out := d.out.insertIdx place (Char.ofNat code)
             code
             bias := adapt (value - d.start) length (d.start == 0)
             start := place + 1
             value := place + 1 }
    else none

/-- The text that a text of letters, digits and hyphens stands for. -/
def decode? (cs : List Char) : Option (List Char) := do
  let (basic, digits) := match cs.reverse.span (· != '-') with
    | (after, _ :: []) => ([], '-' :: after.reverse)
    | (after, _ :: before) => (before.reverse, after.reverse)
    | (after, []) => ([], after.reverse)
  let d ← digits.foldlM Decoder.step? { out := basic }
  if d.k = 36 then some d.out else none

end Vigil.Url.Punycode
