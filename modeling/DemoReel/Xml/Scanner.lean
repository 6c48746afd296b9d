import DemoReel.Text.Scanner
import DemoReel.Xml.Chars

/-!
# Scanning a document

The small pieces that the markup of a document is made of.
-/

namespace DemoReel.Xml

open Text (Scanner)

namespace Scan

open Text.Scanner

def spaces : Scanner Unit := do discard (run isSpace)

/-- Takes at least one space. -/
def someSpace : Scanner Unit := do guard !(← run isSpace).isEmpty

/-- Takes document characters up to `stop`, and `stop` too. -/
def through (stop : String) : Scanner (List Char) := do
  let (front, rest) ← splitAt? stop.toList (← get)
  set rest
  guard (front.all isDocumentChar)
  return front

/-- Takes a quotation mark of either kind. -/
def quote : Scanner Char := do
  let c ← one
  guard (c == '"' || c == '\'')
  return c

/-- Takes an equals sign, with white space around it. -/
def equals : Scanner Unit := do
  spaces
  literal "="
  spaces

/-- Takes a name. -/
def name : Scanner (List Char) := do
  let cs ← run isNameChar
  guard (cs.head?.any isNameStart)
  return cs

end Scan

end DemoReel.Xml
