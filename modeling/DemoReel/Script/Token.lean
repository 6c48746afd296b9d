import DemoReel.Text.Blank

/-!
# Tokens of a script line

A line is cut into words at white space. A word that opens an angle bracket and does not close it
takes in the following words up to the next one that ends in `>`, so that a color may be written
with blanks in it.
-/

namespace DemoReel.Script

/-- The word opens a bracket that it does not close. -/
def opensGroup (w : List Char) : Bool := w.head? == some '<' && w.getLast? != some '>'

/-- The word closes an open bracket. -/
def closesGroup (w : List Char) : Bool := w.getLast? == some '>'

/-- Joins bracketed groups of words. The first argument is the group that is open, if one is, latest
word first; one that never closes ends with the line. -/
def regroup : Option (List (List Char)) → List (List Char) → List (List Char)
  | none, [] => []
  | some group, [] => [group.reverse.flatten]
  | some group, w :: ws =>
    if closesGroup w then (w :: group).reverse.flatten :: regroup none ws
    else regroup (some (w :: group)) ws
  | none, w :: ws =>
    if opensGroup w then regroup (some [w]) ws else w :: regroup none ws

/-- The tokens of a text, as character lists. -/
def tokens (cs : List Char) : List (List Char) := regroup none (Text.words cs)

/-- The tokens of a text. -/
def tokenize (line : String) : List String := (tokens line.toList).map String.ofList

end DemoReel.Script
