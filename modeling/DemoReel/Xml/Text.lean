import DemoReel.Number.Integer
import DemoReel.Text.Blank
import DemoReel.Text.Scanner
import DemoReel.Xml.Chars

/-!
# Text in a document

References are replaced by the characters they stand for, and line ends are made uniform. Only the
five predefined entities exist, for a document cannot declare others.
-/

namespace DemoReel.Xml

/-- The value of a hexadecimal digit. -/
def hexDigit? (c : Char) : Option Nat :=
  if '0' ≤ c ∧ c ≤ '9' then some (c.toNat - '0'.toNat)
  else if 'a' ≤ c ∧ c ≤ 'f' then some (c.toNat - 'a'.toNat + 10)
  else if 'A' ≤ c ∧ c ≤ 'F' then some (c.toNat - 'A'.toNat + 10)
  else none

/-- The number that digits of a radix write, if it fits 32 bits. -/
def codePoint? (radix : Nat) (cs : List Char) : Option Nat := do
  guard !cs.isEmpty
  let ds ← cs.mapM hexDigit?
  guard (ds.all (· < radix))
  let n := ds.foldl (fun n d => n * radix + d) 0
  guard (n ≤ Number.maxUInt32)
  return n

/-- The character with a number; what is no character number stands for the replacement
character. -/
def charOf? (n : Nat) : Option Char :=
  let c := if h : n.isValidChar then Char.ofNatAux n h else '\uFFFD'
  if isDocumentChar c then some c else none

/-- What the name or number between `&` and `;` stands for. -/
def reference? : List Char → Option Char
  | '#' :: 'x' :: ds => (codePoint? 16 ds).bind charOf?
  | '#' :: ds => (codePoint? 10 ds).bind charOf?
  | name =>
    [("quot", '"'), ("amp", '&'), ("apos", '\''), ("lt", '<'), ("gt", '>')].findSome? fun (n, c) =>
      if n.toList = name then some c else none

/-- A character of a text and where it comes from. -/
inductive Origin where
  | written (c : Char)
  | referred (c : Char)
  deriving DecidableEq, Repr

/-- Replaces the references of a text. -/
def origins? (cs : List Char) : Option (List Origin) :=
  match DemoReel.Text.splitOn '&' cs with
  | [] => some []
  | first :: pieces => do
    let rest ← pieces.mapM fun piece => do
      let (name, rest) ← DemoReel.Text.Scanner.splitAt? [';'] piece
      return .referred (← reference? name) :: rest.map .written
    return first.map .written ++ rest.flatten

/-- Line ends become line feeds. The list holds what was put out so far, last character first. The
character right behind a reference is put out as it is. -/
def foldLines (out : List Char) : List Origin → List Char
  | [] => out.reverse
  | .referred c :: .written d :: rest => foldLines (d :: c :: out) rest
  | .referred c :: rest => foldLines (c :: out) rest
  | .written c :: rest =>
    let isLast := rest.isEmpty
    match out with
    | '\r' :: before =>
      let out := '\n' :: before
      if isLast ∧ c = '\r' then foldLines ('\n' :: out) rest
      else if c = '\n' then foldLines out rest
      else foldLines (c :: out) rest
    | out =>
      if isLast ∧ c = '\r' then foldLines ('\n' :: out) rest else foldLines (c :: out) rest

/-- The text that characters between tags stand for. -/
def content? (cs : List Char) : Option (List Char) := (origins? cs).map (foldLines [])

/-- The text of a verbatim section. -/
def verbatim (cs : List Char) : List Char := foldLines [] (cs.map .written)

/-- White space in an attribute becomes blanks, unless a reference stands for it. -/
def foldSpaces : List Origin → List Char
  | [] => []
  | .referred c :: rest => c :: foldSpaces rest
  | .written '\r' :: .written '\n' :: rest => ' ' :: foldSpaces rest
  | .written c :: rest => (if isSpace c then ' ' else c) :: foldSpaces rest

/-- The value of an attribute. -/
def value? (cs : List Char) : Option String :=
  (origins? cs).map fun os => String.ofList (foldSpaces os)

end DemoReel.Xml
