/-!
# Scanning

A scanner takes something off the front of a text, or fails. What it leaves is the rest of the text.
-/

namespace DemoReel.Text

/-- Reads off the front of a text. -/
abbrev Scanner := StateT (List Char) Option

namespace Scanner

/-- What is left of `cs` behind `front`, if `cs` starts with it. -/
def behind? : List Char → List Char → Option (List Char)
  | [], cs => some cs
  | _ :: _, [] => none
  | a :: front, c :: cs => if a = c then behind? front cs else none

/-- The text before the first `stop` and the text behind it, if there is one. -/
def splitAt? (stop : List Char) : List Char → Option (List Char × List Char)
  | [] => (behind? stop []).map ([], ·)
  | c :: cs =>
    match behind? stop (c :: cs) with
    | some rest => some ([], rest)
    | none => (splitAt? stop cs).map fun (front, rest) => (c :: front, rest)

/-- The text holds `part` somewhere. -/
def holds (part : List Char) (cs : List Char) : Bool := (splitAt? part cs).isSome

/-- What comes next starts with `front`. -/
def ahead (front : String) : Scanner Bool := fun cs =>
  some ((behind? front.toList cs).isSome, cs)

/-- Takes exactly `front`. -/
def literal (front : String) : Scanner Unit := fun cs =>
  (behind? front.toList cs).map fun rest => ((), rest)

/-- Takes characters for as long as they are in a class. -/
def run (p : Char → Bool) : Scanner (List Char) := fun cs => some (cs.span p)

/-- Takes one character. -/
def one : Scanner Char
  | [] => none
  | c :: cs => some (c, cs)

/-- What a scanner makes of a whole text; nothing may be left over. -/
def whole? (s : Scanner α) (text : String) : Option α := do
  let (a, rest) ← StateT.run s text.toList
  guard rest.isEmpty
  return a

end Scanner

end DemoReel.Text
