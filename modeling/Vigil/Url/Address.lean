import Vigil.Text.CodeRanges
import Vigil.Text.Numeral
/-!
Numeric hosts. An IPv4 address has up to four numbers, decimal, octal after `0` or hexadecimal
after `0x`, of which the last fills all remaining bytes. An IPv6 address has eight groups of up to
four hexadecimal digits; one run of zero groups may be left out between two colons, and the last
two groups may be written as a dotted decimal IPv4 address.
-/

namespace Vigil.Url

open Text

namespace IPv4

/-- The value of a digit string in a base up to 16. -/
def number? (base : Nat) (cs : List Char) : Option Nat :=
  cs.foldlM (fun acc c => (hexDigit? c).bind fun d => if d < base then some (base * acc + d) else none) 0

/-- One number of a dotted address: its value, which may be far too large. -/
def part? : List Char → Option Nat
  | [] => none
  | '0' :: 'x' :: rest | '0' :: 'X' :: rest => number? 16 rest
  | ['0'] => some 0
  | '0' :: rest => number? 8 rest
  | cs => number? 10 cs

/-- Whether a host is meant to be an IPv4 address: its last label, which may be followed by one
dot, is all digits or reads as a number. -/
def isMeant (host : List Char) : Bool :=
  let last := match (splitOnP (· == '.') host).reverse with
    | [] :: label :: _ => label
    | label :: _ => label
    | [] => []
  !last.isEmpty && (last.all Char.isDigit || (part? last).isSome)

/-- The address a dotted host stands for. -/
def parse? (host : List Char) : Option Nat :=
  let labels := match (splitOnP (· == '.') host).reverse with
    | [] :: rest => rest.reverse
    | labels => labels.reverse
  if labels.length > 4 then none
  else do
    let numbers ← labels.mapM part?
    let last ← numbers.getLast?
    let leading := numbers.dropLast
    if leading.all (· ≤ 255) && last < Nat.pow 256 (4 - leading.length) then
      some (leading.foldl (fun acc n => 256 * acc + n) 0 * Nat.pow 256 (4 - leading.length) + last)
    else none

def text (n : Nat) : String :=
  ".".intercalate ([n / 0x1000000 % 256, n / 0x10000 % 256, n / 0x100 % 256, n % 256].map toString)

end IPv4

namespace IPv6

/-- A group of one to four hexadecimal digits. -/
def group? (cs : List Char) : Option Nat :=
  if cs.isEmpty || 4 < cs.length then none else IPv4.number? 16 cs

/-- A byte in decimal digits, without leading zeros. -/
def octet? (cs : List Char) : Option Nat :=
  if cs.isEmpty || (cs.head? == some '0' && 1 < cs.length) || !cs.all Char.isDigit then none
  else (digits? 0 cs).filter (· ≤ 255)

/-- Groups between single colons; the last may be a dotted address worth two groups. -/
def groups? (cs : List Char) : Option (List Nat) :=
  match (splitOnP (· == ':') cs).reverse with
  | [] => none
  | last :: before => do
    let leading ← before.reverse.mapM group?
    match splitOnP (· == '.') last with
    | [single] => do
      let g ← group? single
      some (leading ++ [g])
    | [a, b, c, d] => do
      let a ← octet? a
      let b ← octet? b
      let c ← octet? c
      let d ← octet? d
      some (leading ++ [256 * a + b, 256 * c + d])
    | _ => none

/-- Groups of a part that may be empty. -/
def part? (cs : List Char) : Option (List Nat) := if cs.isEmpty then some [] else groups? cs

/-- Cut a text at its first double colon. -/
def cut : List Char → Option (List Char × List Char)
  | ':' :: ':' :: rest => some ([], rest)
  | c :: rest => (cut rest).map fun (before, after) => (c :: before, after)
  | [] => none

def parse? (cs : List Char) : Option (List Nat) :=
  match cut cs with
  | none => (groups? cs).filter (·.length == 8)
  | some (before, after) => do
    let left ← part? before
    let right ← part? after
    if before.contains '.' then none
    else if left.length + right.length ≤ 7 then
      some (left ++ List.replicate (8 - left.length - right.length) 0 ++ right)
    else none

/-- The length of the run of zeros at the head of a list. -/
def zeros (groups : List Nat) : Nat := (groups.takeWhile (· == 0)).length

/-- Where the first of the longest runs of at least two zero groups starts. -/
def longestRun (groups : List Nat) : Option Nat :=
  let runs := (List.range groups.length).map fun i => zeros (groups.drop i)
  (runs.max?.filter (2 ≤ ·)).bind fun longest => runs.findIdx? (· == longest)

def text (groups : List Nat) : String :=
  let colons (gs : List Nat) := ":".intercalate (gs.map fun g => String.ofList (Nat.toDigits 16 g))
  match longestRun groups with
  | none => colons groups
  | some i => colons (groups.take i) ++ "::" ++ colons (groups.drop (i + zeros (groups.drop i)))

end IPv6

end Vigil.Url
