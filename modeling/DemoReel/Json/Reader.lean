import DemoReel.Json.Basic
import DemoReel.Text.Scanner

/-!
# Reading JSON

The grammar of JSON. Whether a number can be represented and whether escapes make a text is left
open here.
-/

namespace DemoReel.Json

open Text (Scanner)
open Text.Scanner

namespace Read

def isBlank (c : Char) : Bool := c == ' ' || c == '\t' || c == '\n' || c == '\r'

def blanks : Scanner Unit := do discard (run isBlank)

def isDigit (c : Char) : Bool := (Number.digit? c).isSome

/-- At least one digit. -/
def someDigits : Scanner (List Char) := do
  let ds ← run isDigit
  guard !ds.isEmpty
  return ds

/-- A point with digits behind it, if there is a point. -/
def fractionPart : Scanner (Option (List Char)) := do
  if ← ahead "." then
    literal "."
    return some (← someDigits)
  else return none

/-- A marker with a sign, if there is one, and digits behind it, if there is a marker; whether the
sign is negative, and the digits. -/
def exponentPart : Scanner (Option (Bool × List Char)) := do
  if (← ahead "e") || (← ahead "E") then
    discard one
    let negative ← ahead "-"
    if negative || (← ahead "+") then discard one
    return some (negative, ← someDigits)
  else return none

/-- A number behind its sign. No zero stands in front of other digits. -/
def numberBody (negative : Bool) : Scanner Value := do
  let whole ← someDigits
  guard (whole.head? != some '0' || whole.length == 1)
  let fraction ← fractionPart
  let exponent ← exponentPart
  return .number { negative, whole, fraction, exponent }

/-- A character of a string, or half of one in an escape. -/
inductive Item where
  | char (c : Char)
  | unit (n : Nat)
  deriving DecidableEq, Repr

def hexDigit? (c : Char) : Option Nat :=
  if '0' ≤ c ∧ c ≤ '9' then some (c.toNat - '0'.toNat)
  else if 'a' ≤ c ∧ c ≤ 'f' then some (c.toNat - 'a'.toNat + 10)
  else if 'A' ≤ c ∧ c ≤ 'F' then some (c.toNat - 'A'.toNat + 10)
  else none

/-- The number that four hexadecimal digits write. -/
def hexUnit? (cs : List Char) : Option Nat :=
  (cs.mapM hexDigit?).map (·.foldl (fun n d => n * 16 + d) 0)

/-- What a character behind a backslash stands for. -/
def escape? : Char → Option Char
  | '"' => some '"'
  | '\\' => some '\\'
  | '/' => some '/'
  | 'b' => some '\x08'
  | 'f' => some '\x0C'
  | 'n' => some '\n'
  | 'r' => some '\r'
  | 't' => some '\t'
  | _ => none

/-- A string behind its first quotation mark, up to and with the last. -/
def stringItems : List Char → Option (List Item × List Char)
  | [] => none
  | '"' :: rest => some ([], rest)
  | '\\' :: 'u' :: a :: b :: c :: d :: rest => do
    let n ← hexUnit? [a, b, c, d]
    let (items, rest) ← stringItems rest
    return (.unit n :: items, rest)
  | '\\' :: e :: rest => do
    let c ← escape? e
    let (items, rest) ← stringItems rest
    return (.char c :: items, rest)
  | c :: rest => do
    guard (0x20 ≤ c.toNat)
    let (items, rest) ← stringItems rest
    return (.char c :: items, rest)

/-- The character with a number, if there is one. -/
def charOf? (n : Nat) : Option Char :=
  if h : n.isValidChar then some (Char.ofNatAux n h) else none

/-- The text of a string. The halves of a character have to stand side by side. -/
def textOf? : List Item → Option (List Char)
  | [] => some []
  | .char c :: rest => (textOf? rest).map (c :: ·)
  | .unit n :: rest =>
    match charOf? n with
    | some c => (textOf? rest).map (c :: ·)
    | none =>
      match rest with
      | .unit m :: rest =>
        if n < 0xDC00 ∧ 0xDC00 ≤ m ∧ m ≤ 0xDFFF then do
          let c ← charOf? (0x10000 + (n - 0xD800) * 0x400 + (m - 0xDC00))
          return c :: (← textOf? rest)
        else none
      | _ => none

/-- A string behind its first quotation mark. -/
def stringBody : Scanner (Option String) := do
  let (items, rest) ← stringItems (← get)
  set rest
  return (textOf? items).map String.ofList

/-- What stands between commas, up to a closing character; at most `bound` of them. -/
def separated (item : Scanner α) (stop : Char) : Nat → Scanner (List α)
  | 0 => failure
  | bound + 1 => do
    let a ← item
    blanks
    let c ← one
    if c = stop then return [a]
    else
      guard (c == ',')
      return a :: (← separated item stop bound)

/-- What stands between brackets; at most `bound` items. -/
def bracketed (item : Scanner α) (stop : Char) (bound : Nat) : Scanner (List α) := do
  blanks
  if ← ahead (String.singleton stop) then
    discard one
    return []
  else separated item stop bound

/-- A field of an object. -/
def field (value : Scanner Value) : Scanner (Option String × Value) := do
  blanks
  literal "\""
  let key ← stringBody
  blanks
  literal ":"
  return (key, ← value)

/-- A value with less than `depth` others around the innermost one and at most `bound` items between
any two brackets. -/
def value (bound : Nat) : Nat → Scanner Value
  | 0 => failure
  | depth + 1 => do
    blanks
    match ← one with
    | 'n' => literal "ull"; return .null
    | 't' => literal "rue"; return .bool true
    | 'f' => literal "alse"; return .bool false
    | '"' => return .string (← stringBody)
    | '[' => return .array (← bracketed (value bound depth) ']' bound)
    | '{' => return .object (← bracketed (field (value bound depth)) '}' bound)
    | '-' => numberBody true
    | c => fun cs => numberBody false (c :: cs)

end Read

/-- The value that a text holds, with blanks around it. Each bracket and each item takes a character
at least. -/
def Value.ofText? (text : String) : Option Value :=
  let bound := text.length + 1
  (do let v ← Read.value bound bound
      Read.blanks
      return v : Scanner Value).whole? text

end DemoReel.Json
