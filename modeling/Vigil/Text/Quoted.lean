import Vigil.Text.Printable
/-!
Quoted texts: between double quotes, with a backslash before quotes and backslashes, short escapes
for the common controls, and code points in braces for what cannot be shown.
-/

namespace Vigil.Text

/-- The code point in braces, in small hexadecimal digits without leading zeros. -/
def codePoint (c : Char) : List Char :=
  "\\u\x7b".toList ++ Nat.toDigits 16 c.toNat ++ ['\x7d']

def quotedChar (c : Char) : List Char :=
  match c with
  | '"' => ['\\', '"']
  | '\\' => ['\\', '\\']
  | '\n' => ['\\', 'n']
  | '\r' => ['\\', 'r']
  | '\t' => ['\\', 't']
  | '\x00' => ['\\', '0']
  | _ => if isPlain c then [c] else codePoint c

def quoted (s : String) : String :=
  String.ofList ('"' :: s.toList.flatMap quotedChar ++ ['"'])

/-- An optional value in the log: `None`, or `Some` with the value's text. -/
def optional {α : Type} (show' : α → String) : Option α → String
  | none => "None"
  | some a => "Some(" ++ show' a ++ ")"

end Vigil.Text
