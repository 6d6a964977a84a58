/-!
Sets and maps of code points, written down as texts. A set is a text of hexadecimal ranges such as
`0-1f 7f ad`. A map adds to each range what its code points stand for: `41-5a=61` for one code
point each, counted from the start of the range on, `132*69.6a` for the same sequence throughout,
and `100-12e/2=101` for every second code point of the range.
-/

namespace Vigil.Text

def hexDigit? (c : Char) : Option Nat :=
  if c.isDigit then some (c.toNat - '0'.toNat)
  else if 'a' ≤ c ∧ c ≤ 'f' then some (c.toNat - 'a'.toNat + 10)
  else if 'A' ≤ c ∧ c ≤ 'F' then some (c.toNat - 'A'.toNat + 10)
  else none

/-- The value of a hexadecimal text; characters that are no digits are passed over. -/
def hexValue (cs : List Char) : Nat :=
  cs.foldl (fun acc c => (hexDigit? c).elim acc (16 * acc + ·)) 0

/-- Split a list at every element of a class. -/
def splitOnP {α : Type} (p : α → Bool) (as : List α) : List (List α) :=
  as.foldr (fun a parts =>
    match p a, parts with
    | true, parts => [] :: parts
    | false, [] => [[a]]
    | false, part :: parts => (a :: part) :: parts) [[]]

/-- The parts of a text between blanks. -/
def words (text : String) : List (List Char) :=
  (splitOnP (fun c => c == ' ' || c == '\n') text.toList).filter (!·.isEmpty)

/-- The ends of a range, which are the same if there is only one code point. -/
def rangeOf (cs : List Char) : Nat × Nat :=
  match splitOnP (· == '-') cs with
  | [single] => (hexValue single, hexValue single)
  | first :: last :: _ => (hexValue first, hexValue last)
  | [] => (0, 0)

/-- Inclusive ranges of code points. -/
structure CodeRanges where
  ranges : Array (Nat × Nat)

namespace CodeRanges

def ofText (text : String) : CodeRanges := ⟨((words text).map rangeOf).toArray⟩

def contains (s : CodeRanges) (c : Char) : Bool :=
  s.ranges.any fun (first, last) => first ≤ c.toNat && c.toNat ≤ last

end CodeRanges

/-- What every `step`-th code point from `first` to `last` stands for. -/
structure CodeEntry where
  first : Nat
  last : Nat
  step : Nat
  /-- Whether the target moves along with the code point. -/
  moves : Bool
  target : List Nat

def CodeEntry.covers (e : CodeEntry) (n : Nat) : Bool :=
  e.first ≤ n && n ≤ e.last && (n - e.first) % e.step == 0

def CodeEntry.image (e : CodeEntry) (n : Nat) : List Nat :=
  match e.moves, e.target with
  | true, [t] => [t + (n - e.first)]
  | _, ts => ts

structure CodeMap where
  entries : Array CodeEntry

namespace CodeMap

def entryOf (cs : List Char) : CodeEntry :=
  let (source, rest) := cs.span fun c => c != '=' && c != '*'
  let (range, by2) := source.span (· != '/')
  let (first, last) := rangeOf range
  { first, last
    step := if by2.isEmpty then 1 else 2
    moves := rest.head? == some '='
    target := ((splitOnP (· == '.') (rest.drop 1)).filter (!·.isEmpty)).map hexValue }

def ofText (text : String) : CodeMap := ⟨((words text).map entryOf).toArray⟩

/-- What a code point stands for, if the map says. -/
def image? (m : CodeMap) (c : Char) : Option (List Nat) :=
  (m.entries.find? (·.covers c.toNat)).map (·.image c.toNat)

/-- The first code point that stands for a sequence. -/
def source? (m : CodeMap) (target : List Nat) : Option Char :=
  (m.entries.find? (·.target == target)).map fun e => Char.ofNat e.first

end CodeMap

end Vigil.Text
