import DemoReel.Xml.Scanner
import DemoReel.Xml.Tree

/-!
# Markup

A document as a sequence of tags, texts, comments and instructions. Whether tags match, and what
references stand for, is not decided here.
-/

namespace DemoReel.Xml

/-- An attribute as it is written, its value without the quotation marks. -/
structure RawAttribute where
  name : QName
  value : List Char
  deriving DecidableEq, Repr

/-- A piece of a document. -/
inductive Markup where
  /-- A document type that refers to its declarations and holds none. -/
  | doctype
  | comment
  | instruction
  /-- Text in which nothing is markup. -/
  | verbatim (cs : List Char)
  /-- Text in which references are still to be replaced. -/
  | text (cs : List Char)
  /-- A start tag; `closed` if it is the end tag too. -/
  | opening (name : QName) (attributes : List RawAttribute) (closed : Bool)
  | closing (name : QName)
  deriving DecidableEq, Repr

namespace Markup

open Text (Scanner)
open Text.Scanner Scan

/-- Cuts a name at its colon, if it has exactly one or none. -/
def splitName? (cs : List Char) : Option (List Char × List Char) :=
  match cs.span (· != ':') with
  | (base, []) => some ([], base)
  | (qualifier, _ :: base) => if base.contains ':' then none else some (qualifier, base)

/-- A name that may have a qualifier. -/
def qname : Scanner QName := do
  let (qualifier, base) ← splitName? (← run isNameChar)
  guard (qualifier.head?.all isNameStart && base.head?.any isNameStart)
  return ⟨String.ofList qualifier, String.ofList base⟩

/-- A text between quotation marks, in which anything else may stand. -/
def quoted : Scanner Unit := do
  let mark ← quote
  discard (run (· != mark))
  literal (String.singleton mark)

/-- A document type behind its first word. One that holds declarations is refused. -/
def doctypeBody : Scanner Markup := do
  someSpace
  discard name
  spaces
  if ← ahead "SYSTEM" then
    literal "SYSTEM"
    someSpace
    quoted
  else if ← ahead "PUBLIC" then
    literal "PUBLIC"
    someSpace
    quoted
    someSpace
    quoted
  spaces
  literal ">"
  return .doctype

/-- The text of a comment: two hyphens only end it. -/
def commentBody : Scanner Markup := do
  let cs ← through "-->"
  guard (!holds ['-', '-'] cs && cs.getLast? != some '-')
  return .comment

/-- The target and the data of an instruction. -/
def instructionBody : Scanner Markup := do
  discard name
  spaces
  discard (through "?>")
  return .instruction

/-- A value between quotation marks. -/
def attributeValue : Scanner (List Char) := do
  let mark ← quote
  let value ← run fun c => c != mark && c != '<'
  literal (String.singleton mark)
  guard (value.all isDocumentChar)
  return value

/-- The attributes of a tag, less than `bound`, and whether it closes itself. -/
def attributes : Nat → List RawAttribute → Scanner (List RawAttribute × Bool)
  | 0, _ => failure
  | bound + 1, before => do
    let gap := !(← run isSpace).isEmpty
    if ← ahead ">" then
      literal ">"
      return (before.reverse, false)
    else if ← ahead "/" then
      literal "/>"
      return (before.reverse, true)
    else
      guard gap
      let name ← qname
      equals
      let value ← attributeValue
      attributes bound (⟨name, value⟩ :: before)

/-- A start tag behind its angle bracket. -/
def openingBody (bound : Nat) : Scanner Markup := do
  let name ← qname
  let (attributes, closed) ← attributes bound []
  return .opening name attributes closed

/-- An end tag behind its slash. -/
def closingBody : Scanner Markup := do
  let name ← qname
  spaces
  literal ">"
  return .closing name

/-- Text up to the next tag. -/
def textBody : Scanner Markup := do
  let cs ← run (· != '<')
  guard (cs.all isDocumentChar && !holds "]]>".toList cs)
  return .text cs

/-- The next piece of a document; a tag in it has less than `bound` attributes. -/
def next (bound : Nat) : Scanner Markup := do
  if ← ahead "<!--" then
    literal "<!--"
    commentBody
  else if ← ahead "<![CDATA[" then
    literal "<![CDATA["
    return .verbatim (← through "]]>")
  else if ← ahead "<!DOCTYPE" then
    literal "<!DOCTYPE"
    doctypeBody
  else if ← ahead "<!" then failure
  else if ← ahead "<?xml " then failure
  else if ← ahead "<?" then
    literal "<?"
    instructionBody
  else if ← ahead "</" then
    literal "</"
    closingBody
  else if ← ahead "<" then
    literal "<"
    openingBody bound
  else textBody

/-- All pieces of a text, which are at most `count`. -/
def sequenceWithin (bound : Nat) : Nat → List Char → Option (List Markup)
  | _, [] => some []
  | 0, _ :: _ => none
  | count + 1, cs =>
    match StateT.run (next bound) cs with
    | none => none
    | some (m, rest) => (sequenceWithin bound count rest).map (m :: ·)

/-- A part of an XML declaration: a word and a quoted value that starts with `lead` and goes on with
characters of a class. -/
def declared (word lead : String) (p : Char → Bool) : Scanner (List Char) := do
  literal word
  equals
  let mark ← quote
  literal lead
  let value ← run p
  literal (String.singleton mark)
  return value

/-- White space, or the end of a declaration, which follows. -/
def declarationGap : Scanner Unit := do
  if ← ahead "?>" then return () else someSpace

/-- The XML declaration behind its first word. -/
def declarationBody : Scanner Unit := do
  spaces
  discard (declared "version" "1." Char.isDigit)
  declarationGap
  if ← ahead "encoding" then
    discard (declared "encoding" "" fun c => c.isAlphanum || c == '.' || c == '-' || c == '_')
    declarationGap
  if ← ahead "standalone" then
    let value ← declared "standalone" "" isNameChar
    guard (value == "yes".toList || value == "no".toList)
  spaces
  literal "?>"

/-- What may come before the first piece: a byte order mark and an XML declaration. -/
def preamble : Scanner Unit := do
  if ← ahead "\uFEFF" then literal "\uFEFF"
  if ← ahead "<?xml " then
    literal "<?xml "
    declarationBody

/-- The pieces of a document. Each of them takes a character at least, and so does each
attribute. -/
def sequence (text : String) : Option (List Markup) := do
  let ((), rest) ← StateT.run preamble text.toList
  sequenceWithin rest.length rest.length rest

end Markup

end DemoReel.Xml
