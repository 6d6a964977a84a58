/-!
White space as Unicode's property of that name has it, and trimming by it.
-/

namespace Vigil.Text

/-- Characters with the property White_Space. -/
def isBlank (c : Char) : Bool :=
  let n := c.toNat
  (9 ≤ n && n ≤ 13) || n == 0x20 || n == 0x85 || n == 0xA0 || n == 0x1680 ||
    (0x2000 ≤ n && n ≤ 0x200A) || n == 0x2028 || n == 0x2029 || n == 0x202F || n == 0x205F ||
    n == 0x3000

/-- `cs` without the characters of the class at either end. -/
def strip (p : Char → Bool) (cs : List Char) : List Char :=
  ((cs.dropWhile p).reverse.dropWhile p).reverse

/-- A text without white space at either end. -/
def trim (s : String) : String := String.ofList (strip isBlank s.toList)

/-- Whether a text is empty but for white space. -/
def allBlank (s : String) : Bool := s.toList.all isBlank

/-- A text with the ASCII capitals made small. -/
def lower (s : String) : String := String.ofList (s.toList.map Char.toLower)

end Vigil.Text
