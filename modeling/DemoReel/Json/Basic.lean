import DemoReel.Number.Integer

/-!
# JSON values

A number keeps its digits, for what they are worth depends on what is asked for. A string whose
escapes are not a text is kept as such, for nothing is wrong with it until it is looked at.
-/

namespace DemoReel.Json

/-- A number as it is written. -/
structure Lexeme where
  negative : Bool := false
  whole : List Char
  /-- The digits behind the point. -/
  fraction : Option (List Char) := none
  /-- Whether the exponent is negative, and its digits. -/
  exponent : Option (Bool × List Char) := none
  deriving DecidableEq, Repr

/-- A value. Fields are in the order in which they are written, with all that come twice. -/
inductive Value where
  | null
  | bool (b : Bool)
  | number (l : Lexeme)
  | string (text? : Option String)
  | array (elements : List Value)
  | object (fields : List (Option String × Value))

/-- The lexeme of an integer. -/
def Lexeme.ofInt (i : Int) : Lexeme :=
  { negative := i < 0, whole := Number.digits i.natAbs }

end DemoReel.Json
