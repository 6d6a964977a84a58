import Vigil.Text.CodeRanges
import Vigil.Text.Utf8
/-!
Texts in TOML: between one or three quotes, single ones for texts taken as they are and double ones
for texts with escapes. Writing picks the plainest of the four forms that can hold a text. Readers
take what stands behind the opening quotes and answer with the text and what follows its end.
-/

namespace Vigil.Toml.Text

/-- Characters that may stand in a text or a comment as they are, line ends apart. -/
def isPlain (c : Char) : Bool := c == '\t' || (0x20 ≤ c.toNat && c.toNat != 0x7F)

def isBlank (c : Char) : Bool := c == ' ' || c == '\t'

/-! Reading -/

/-- Put a character in front of the text that was read. -/
def push (c : Char) (read : Option (List Char × List Char)) : Option (List Char × List Char) :=
  read.map fun (text, rest) => (c :: text, rest)

/-- The character with a hexadecimal code point. -/
def codePoint? (digits : List Char) : Option Char := do
  guard (digits.all (Vigil.Text.hexDigit? · |>.isSome))
  Vigil.Text.Utf8.char? 0 (Vigil.Text.hexValue digits)

/-- The character for a letter behind a backslash. -/
def unescape? (c : Char) : Option Char :=
  match c with
  | 'b' => some '\x08'
  | 't' => some '\t'
  | 'n' => some '\n'
  | 'f' => some '\x0c'
  | 'r' => some '\r'
  | '"' => some '"'
  | '\\' => some '\\'
  | _ => none

/-- Up to two quotes before closing ones belong to the text. -/
def closing (quote : Char) : List Char → List Char × List Char
  | a :: b :: rest =>
    if a = quote then if b = quote then ([a, b], rest) else ([a], b :: rest) else ([], a :: b :: rest)
  | [a] => if a = quote then ([a], []) else ([], [a])
  | [] => ([], [])

/-- Whether a line ends here, but for blanks. -/
def endsLine (cs : List Char) : Bool :=
  match cs.dropWhile isBlank with
  | '\n' :: _ | '\r' :: '\n' :: _ => true
  | _ => false

/-- Read to the double quote that ends the text. -/
def readBasic : List Char → Option (List Char × List Char)
  | [] => none
  | '"' :: rest => some ([], rest)
  | '\\' :: 'u' :: a :: b :: c :: d :: rest => do push (← codePoint? [a, b, c, d]) (readBasic rest)
  | '\\' :: 'U' :: a :: b :: c :: d :: e :: f :: g :: h :: rest => do
    push (← codePoint? [a, b, c, d, e, f, g, h]) (readBasic rest)
  | '\\' :: c :: rest => do push (← unescape? c) (readBasic rest)
  | c :: rest => if isPlain c && c != '\\' then push c (readBasic rest) else none

/-- Read to the single quote that ends the text. -/
def readLiteral : List Char → Option (List Char × List Char)
  | [] => none
  | c :: rest =>
    if c = '\'' then some ([], rest)
    else if isPlain c then push c (readLiteral rest)
    else none

/-- Read to three double quotes. `joining` tells that a backslash at the end of a line has the
blanks and line ends that follow left out. -/
def readLongBasic (joining : Bool) : List Char → Option (List Char × List Char)
  | [] => none
  | '"' :: '"' :: '"' :: rest => some (closing '"' rest)
  | '\\' :: 'u' :: a :: b :: c :: d :: rest => do
    push (← codePoint? [a, b, c, d]) (readLongBasic false rest)
  | '\\' :: 'U' :: a :: b :: c :: d :: e :: f :: g :: h :: rest => do
    push (← codePoint? [a, b, c, d, e, f, g, h]) (readLongBasic false rest)
  | '\\' :: c :: rest =>
    if endsLine (c :: rest) then readLongBasic true (c :: rest)
    else do push (← unescape? c) (readLongBasic false rest)
  | '\r' :: '\n' :: rest =>
    if joining then readLongBasic true rest else push '\n' (readLongBasic false rest)
  | c :: rest =>
    if joining && (isBlank c || c == '\n') then readLongBasic true rest
    else if (isPlain c && c != '\\') || c == '\n' then push c (readLongBasic false rest)
    else none

/-- Read to three single quotes. -/
def readLongLiteral : List Char → Option (List Char × List Char)
  | [] => none
  | '\'' :: '\'' :: '\'' :: rest => some (closing '\'' rest)
  | '\r' :: '\n' :: rest => push '\n' (readLongLiteral rest)
  | c :: rest => if isPlain c || c == '\n' then push c (readLongLiteral rest) else none

/-- A line end directly behind three opening quotes does not count. -/
def skipLineEnd : List Char → List Char
  | '\n' :: rest | '\r' :: '\n' :: rest => rest
  | cs => cs

/-- Read a text on one line, from its opening quote on. -/
def readShort : List Char → Option (List Char × List Char)
  | '"' :: rest => readBasic rest
  | '\'' :: rest => readLiteral rest
  | _ => none

/-- Read a text in any of its forms, from its opening quotes on. -/
def read : List Char → Option (List Char × List Char)
  | '"' :: '"' :: '"' :: rest => readLongBasic false (skipLineEnd rest)
  | '\'' :: '\'' :: '\'' :: rest => readLongLiteral (skipLineEnd rest)
  | cs => readShort cs

/-! Writing -/

/-- Characters that can only be written as escapes, wherever they stand. -/
def isControl (c : Char) : Bool := !isPlain c && c != '\n'

/-- The length of the longest run of a character, where `run` of them were just seen. -/
def longestRun (c : Char) (run : Nat) : List Char → Nat
  | [] => run
  | d :: rest => if d = c then longestRun c (run + 1) rest else max run (longestRun c 0 rest)

/-- A code point in four capital hexadecimal digits. -/
def codePoint (c : Char) : List Char :=
  let digit (n : Nat) := (Nat.digitChar n).toUpper
  let n := c.toNat
  ['\\', 'u', digit (n / 4096 % 16), digit (n / 256 % 16), digit (n / 16 % 16), digit (n % 16)]

/-- A character between double quotes, a double quote apart. -/
def escape (long : Bool) (c : Char) : List Char :=
  match c with
  | '\x08' => ['\\', 'b']
  | '\t' => ['\\', 't']
  | '\n' => if long then ['\n'] else ['\\', 'n']
  | '\x0c' => ['\\', 'f']
  | '\r' => ['\\', 'r']
  | '\\' => ['\\', '\\']
  | _ => if isControl c then codePoint c else [c]

/-- A text between double quotes. Three quotes in a row would end a long one, so the third is
escaped; `run` of them were just written as they are. -/
def escapeAll (long : Bool) (run : Nat) : List Char → List Char
  | [] => []
  | c :: rest =>
    if c = '"' then
      if (if long then 2 else 0) ≤ run then '\\' :: '"' :: escapeAll long 0 rest
      else '"' :: escapeAll long (run + 1) rest
    else escape long c ++ escapeAll long 0 rest

inductive Form where
  | basic | literal | longBasic | longLiteral
  deriving DecidableEq, Repr

/-- The plainest form that can hold a text. -/
def formOf (cs : List Char) : Form :=
  let controls := cs.any isControl
  let backslash := cs.contains '\\'
  let lines := cs.contains '\n'
  if !controls && !backslash && !lines && !cs.contains '"' then .basic
  else if !controls && !lines && !cs.contains '\'' then .literal
  else if !controls && !backslash && longestRun '"' 0 cs ≤ 2 then .longBasic
  else if !controls && longestRun '\'' 0 cs ≤ 2 then .longLiteral
  else if lines then .longBasic
  else .basic

def write (cs : List Char) : List Char :=
  let opening := if cs.contains '\n' then ['\n'] else []
  match formOf cs with
  | .basic => '"' :: escapeAll false 0 cs ++ ['"']
  | .literal => '\'' :: cs ++ ['\'']
  | .longBasic => ['"', '"', '"'] ++ opening ++ escapeAll true 0 cs ++ ['"', '"', '"']
  | .longLiteral => ['\'', '\'', '\''] ++ opening ++ cs ++ ['\'', '\'', '\'']

end Vigil.Toml.Text
