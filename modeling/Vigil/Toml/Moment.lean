import Vigil.Toml.Number
/-!
Dates and times in TOML. Nothing but their form matters here.
-/

namespace Vigil.Toml.Moment

/-- A number of two digits up to a bound. -/
def two? (least most : Nat) : List Char → Option (Nat × List Char)
  | a :: b :: rest =>
    let n := Number.value 10 [a, b]
    if a.isDigit && b.isDigit && least ≤ n && n ≤ most then some (n, rest) else none
  | _ => none

def expect? (c : Char) : List Char → Option (List Char)
  | d :: rest => if d = c then some rest else none
  | [] => none

def daysIn (year month : Nat) : Nat :=
  match month with
  | 2 => if year % 4 = 0 ∧ (year % 100 ≠ 0 ∨ year % 400 = 0) then 29 else 28
  | 4 | 6 | 9 | 11 => 30
  | _ => 31

/-- Cut a date off. -/
def date? (cs : List Char) : Option (List Char) := do
  let year := cs.take 4
  guard (year.length = 4 && year.all Char.isDigit)
  let rest ← expect? '-' (cs.drop 4)
  let (month, rest) ← two? 1 12 rest
  let rest ← expect? '-' rest
  let (_, rest) ← two? 1 (daysIn (Number.value 10 year) month) rest
  return rest

/-- Cut a time off, with as many decimals of a second as there are. -/
def time? (cs : List Char) : Option (List Char) := do
  let (_, rest) ← two? 0 23 cs
  let rest ← expect? ':' rest
  let (_, rest) ← two? 0 59 rest
  let rest ← expect? ':' rest
  let (_, rest) ← two? 0 60 rest
  match rest with
  | '.' :: decimals =>
    guard (decimals.head?.any Char.isDigit)
    return decimals.dropWhile Char.isDigit
  | _ => return rest

/-- Whether a text is a distance from universal time, or nothing. -/
def isOffset (cs : List Char) : Bool :=
  match cs with
  | [] | ['Z'] | ['z'] => true
  | sign :: rest =>
    (sign == '+' || sign == '-') &&
      ((do
        let (_, rest) ← two? 0 23 rest
        let rest ← expect? ':' rest
        let (_, rest) ← two? 0 59 rest
        return rest : Option (List Char)) == some [])

/-- Whether a text is a time that may come with a distance from universal time. -/
def isTimeWithOffset (cs : List Char) : Bool := (time? cs).any isOffset

def isDate (cs : List Char) : Bool := date? cs == some []

/-- Whether a text without blanks is a date, a time, or both with a `T` between. -/
def isMoment (cs : List Char) : Bool :=
  time? cs == some [] ||
    match date? cs with
    | some [] => true
    | some (mark :: rest) => (mark == 'T' || mark == 't') && isTimeWithOffset rest
    | none => false

end Vigil.Toml.Moment
