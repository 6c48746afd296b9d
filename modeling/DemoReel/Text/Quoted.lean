import DemoReel.Text.Printable

/-!
# Quoted text

A text between quotation marks. Marks, double or single, backslashes and all characters that would
not show or would join their neighbour are written as escapes, so that the quotation is plain to
read.
-/

namespace DemoReel.Text

/-- The digits of `n` to base sixteen, in lower case. -/
def hexDigits (n : Nat) : List Char := Nat.toDigits 16 n

/-- A character by the number of its code point. -/
def escapeByNumber (c : Char) : List Char :=
  ['\\', 'u', '\x7b'] ++ hexDigits c.toNat ++ ['\x7d']

/-- What stands for a character inside quotation marks. -/
def quotedChar : Char → List Char
  | '\x00' => ['\\', '0']
  | '\t' => ['\\', 't']
  | '\n' => ['\\', 'n']
  | '\r' => ['\\', 'r']
  | '"' => ['\\', '"']
  | '\x27' => ['\\', '\x27']
  | '\\' => ['\\', '\\']
  | c => if isPrintable c && !isExtending c then [c] else escapeByNumber c

/-- The text between quotation marks. -/
def quoted (s : String) : String :=
  String.ofList ('"' :: s.toList.flatMap quotedChar ++ ['"'])

end DemoReel.Text
