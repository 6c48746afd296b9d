import DemoReel.Json.Library
import DemoReel.Json.Number
import DemoReel.Json.Reader
import DemoReel.Json.Writer

/-!
# A library for JSON

The fields of a record stand in an object under their names, or in an array in their order; fields
that are not known say nothing, and one that comes twice spoils the record. Values are taken as
they are: only the form is checked.
-/

namespace DemoReel.Json

namespace Value

def bool? : Value → Option Bool
  | .bool b => some b
  | _ => none

def text? : Value → Option String
  | .string t => t
  | _ => none

/-- A word, as a string or as the name of the only field of an object, which has to be null. -/
def word? : Value → Option String
  | .string t => t
  | .object [(k, .null)] => k
  | _ => none

/-- An integer from `low` to `high`. -/
def integer? (low high : Int) : Value → Option Int
  | .number l =>
    match l.value? with
    | some (.integer i) => if low ≤ i ∧ i ≤ high then some i else none
    | _ => none
  | _ => none

def binary32? : Value → Option Float32
  | .number l => l.value?.map Numeral.toBinary32
  | _ => none

def list? : Value → Option (List Value)
  | .array vs => some vs
  | _ => none

/-- The known fields of a value. -/
def fields? (names : List String) : Value → Option (List (String × Value))
  | .array vs => if vs.length ≤ names.length then some (names.zip vs) else none
  | .object fs => do
    let fs ← fs.mapM fun (k, v) => return (← k, v)
    let known := fs.filter fun (k, _) => k ∈ names
    guard (known.map (·.1)).Nodup
    return known
  | _ => none

/-- A number that is not finite becomes null. -/
def ofBinary32 (x : Float32) : Value :=
  match Lexeme.ofBinary32? x with
  | some l => .number l
  | none => .null

/-- An object with the given fields. -/
def ofFields (fs : List (String × Value)) : Value := .object (fs.map fun (k, v) => (some k, v))

end Value

/-- The library whose values are those of the grammar. -/
def standard : Library where
  Data := Value
  null := .null
  ofBool := .bool
  ofString s := .string (some s)
  ofInt i := .number (.ofInt i)
  ofBinary32 := .ofBinary32
  ofList := .array
  ofFields := .ofFields
  bool? := Value.bool?
  text? := Value.text?
  word? := Value.word?
  integer? := Value.integer?
  binary32? := Value.binary32?
  list? := Value.list?
  fields? := Value.fields?
  write := Value.text
  read := Value.ofText?

end DemoReel.Json
