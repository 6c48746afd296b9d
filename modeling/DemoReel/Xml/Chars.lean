import DemoReel.Text.Printable

/-!
# Character classes of XML

Which characters a document may hold at all, and which of them may stand in names.
-/

namespace DemoReel.Xml

/-- The four characters of white space. -/
def isSpace (c : Char) : Bool := c == ' ' || c == '\t' || c == '\n' || c == '\r'

/-- Everything but the control characters, of which three are allowed, and two non-characters. -/
def isDocumentChar (c : Char) : Bool :=
  let n := c.toNat
  if n < 0x20 then c == '\t' || c == '\n' || c == '\r' else n != 0xFFFE && n != 0xFFFF

/-- The characters that names may start with, beyond ASCII. -/
def nameStartRanges : Text.Ranges :=
  #[(0xC0, 0xD6), (0xD8, 0xF6), (0xF8, 0x2FF), (0x370, 0x37D), (0x37F, 0x1FFF), (0x200C, 0x200D),
    (0x2070, 0x218F), (0x2C00, 0x2FEF), (0x3001, 0xD7FF), (0xF900, 0xFDCF), (0xFDF0, 0xFFFD),
    (0x10000, 0xEFFFF)]

/-- The characters that are added inside a name, beyond ASCII. -/
def nameRanges : Text.Ranges := #[(0xB7, 0xB7), (0x300, 0x36F), (0x203F, 0x2040)]

/-- May start a name. -/
def isNameStart (c : Char) : Bool :=
  c.isAlpha || c == ':' || c == '_' || nameStartRanges.holds c

/-- May stand in a name. -/
def isNameChar (c : Char) : Bool :=
  isNameStart c || c.isDigit || c == '-' || c == '.' || nameRanges.holds c

end DemoReel.Xml
