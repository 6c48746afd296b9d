import DemoReel.Number.Integer

/-!
# Script commands

What one line of a script asks for, when, and the canonical way of writing it.
-/

namespace DemoReel

/-- What a command does. -/
inductive Keyword where
  | startPart
  | endPart
  | renamePart
  | setTarget
  | setClear
  | finish
  | effect
  deriving DecidableEq, Repr

namespace Keyword

/-- Every keyword, in the order in which a command table is checked. -/
def all : List Keyword :=
  [.startPart, .endPart, .renamePart, .setTarget, .setClear, .finish, .effect]

/-- The keyword as scripts write it. -/
def text : Keyword → String
  | .startPart => "START_PART"
  | .endPart => "END_PART"
  | .renamePart => "RENAME_PART"
  | .setTarget => "SET_RTARGET"
  | .setClear => "SET_CLEAR"
  | .finish => "END"
  | .effect => "FX"

/-- Reads a keyword; the case of ASCII letters does not matter. -/
def ofText? (s : String) : Option Keyword :=
  let upper := s.toList.map Char.toUpper
  all.find? fun k => k.text.toList == upper

theorem mem_all (k : Keyword) : k ∈ all := by cases k <;> simp [all]

theorem ofText?_text (k : Keyword) : ofText? k.text = some k := by cases k <;> rfl

end Keyword

/-- One command of a script. -/
structure Command where
  /-- The time from which it is due. -/
  due : Int
  keyword : Keyword
  args : List String
  /-- The line that it stood on, counted from one. -/
  line : Nat
  deriving DecidableEq, Repr

namespace Command

/-- The part or effect that the command addresses. -/
def target? (c : Command) : Option String := c.args[0]?

def arg? (c : Command) (i : Nat) : Option String := c.args[i]?

/-- The canonical spelling: time in milliseconds, keyword in capitals, arguments, one blank between
each. -/
def text (c : Command) : String :=
  String.intercalate " " (Number.integerText c.due :: c.keyword.text :: c.args)

end Command

end DemoReel
