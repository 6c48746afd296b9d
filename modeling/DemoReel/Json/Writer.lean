import DemoReel.Json.Basic

/-!
# Writing JSON

The compact form: no blanks, and escapes only where a character could not stand for itself.
-/

namespace DemoReel.Json

/-- The characters of a lexeme. -/
def Lexeme.write (l : Lexeme) : List Char :=
  (if l.negative then ['-'] else []) ++ l.whole ++
    (match l.fraction with
      | none => []
      | some ds => '.' :: ds) ++
    match l.exponent with
    | none => []
    | some (negative, ds) => 'e' :: (if negative then '-' :: ds else ds)

/-- A character inside a string. -/
def writeChar (c : Char) : List Char :=
  match c with
  | '"' => ['\\', '"']
  | '\\' => ['\\', '\\']
  | '\x08' => ['\\', 'b']
  | '\x0C' => ['\\', 'f']
  | '\n' => ['\\', 'n']
  | '\r' => ['\\', 'r']
  | '\t' => ['\\', 't']
  | c =>
    if c.toNat < 0x20 then
      ['\\', 'u', '0', '0', Nat.digitChar (c.toNat / 16), Nat.digitChar (c.toNat % 16)]
    else [c]

def writeString (s : String) : List Char := '"' :: s.toList.flatMap writeChar ++ ['"']

mutual

/-- The compact text of a value. -/
def Value.write : Value → List Char
  | .null => "null".toList
  | .bool b => (if b then "true" else "false").toList
  | .number l => l.write
  | .string t => writeString (t.getD "")
  | .array [] => "[]".toList
  | .array (v :: vs) => '[' :: v.write ++ Value.writeElements vs
  | .object [] => ['\x7b', '\x7d']
  | .object ((k, v) :: fs) =>
    '\x7b' :: writeString (k.getD "") ++ ':' :: v.write ++ Value.writeFields fs

/-- The elements after the first, and the end of the array. -/
def Value.writeElements : List Value → List Char
  | [] => [']']
  | v :: vs => ',' :: v.write ++ Value.writeElements vs

/-- The fields after the first, and the end of the object. -/
def Value.writeFields : List (Option String × Value) → List Char
  | [] => ['\x7d']
  | (k, v) :: fs => ',' :: writeString (k.getD "") ++ ':' :: v.write ++ Value.writeFields fs

end

/-- The compact text of a value. -/
def Value.text (v : Value) : String := String.ofList v.write

end DemoReel.Json
