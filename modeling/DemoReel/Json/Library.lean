import DemoReel.Number.Integer

/-!
# JSON libraries

What records need of a library for JSON: it makes values of the kinds that fields have, looks into
values, writes them to texts and reads them from texts. How a text looks, and which other texts are
taken, is its own affair. What records rely on is collected in `Library.Lawful`.
-/

namespace DemoReel.Json

open Number

/-- A library for JSON. -/
structure Library where
  /-- The values, in whatever form. -/
  Data : Type
  null : Data
  ofBool : Bool → Data
  ofString : String → Data
  ofInt : Int → Data
  ofBinary32 : Float32 → Data
  ofList : List Data → Data
  /-- A record, its fields under their names. -/
  ofFields : List (String × Data) → Data
  bool? : Data → Option Bool
  text? : Data → Option String
  /-- The name of a variant. -/
  word? : Data → Option String
  /-- An integer from `low` to `high`. -/
  integer? (low high : Int) : Data → Option Int
  binary32? : Data → Option Float32
  list? : Data → Option (List Data)
  /-- Of a record that knows fields by these names, those that are given. -/
  fields? (names : List String) : Data → Option (List (String × Data))
  write : Data → String
  read : String → Option Data

namespace Library

/-- The values that are made of numbers, texts and truth values. -/
inductive Built (J : Library) : J.Data → Prop where
  | bool (b : Bool) : Built J (J.ofBool b)
  | string (s : String) : Built J (J.ofString s)
  | int (i : Int) : Built J (J.ofInt i)
  | binary32 (x : Float32) : Built J (J.ofBinary32 x)
  | list {vs : List J.Data} (h : ∀ v ∈ vs, Built J v) : Built J (J.ofList vs)
  | fields {fs : List (String × J.Data)} (h : ∀ f ∈ fs, Built J f.2) : Built J (J.ofFields fs)

/-- The number is what is read where it was written. -/
def Exact (J : Library) (x : Float32) : Prop := J.binary32? (J.ofBinary32 x) = some x

/-- What libraries for JSON are documented to do. Which numbers they keep exactly is left open. -/
structure Lawful (J : Library) : Prop where
  read_write : ∀ {v}, J.Built v → J.read (J.write v) = some v
  bool : ∀ b, J.bool? (J.ofBool b) = some b
  text : ∀ s, J.text? (J.ofString s) = some s
  word : ∀ s, J.word? (J.ofString s) = some s
  /-- An integer of 64 bits without a sign is exact. -/
  integer : ∀ {low high i : Int}, 0 ≤ i → i ≤ maxUInt64 → low ≤ i → i ≤ high →
    J.integer? low high (J.ofInt i) = some i
  list : ∀ vs, J.list? (J.ofList vs) = some vs
  /-- Fields are known by their names. -/
  fields : ∀ {names fs}, fs.map Prod.fst = names → names.Nodup →
    J.fields? names (J.ofFields fs) = some fs
  /-- A number that is not finite is written as null. -/
  infinite : ∀ {x}, x.isFinite = false → J.ofBinary32 x = J.null
  /-- Null is no number. -/
  null : J.binary32? J.null = none

end Library

/-- What `read` makes of a field, or the default where there is none. -/
def fieldOr {α δ : Type} (fs : List (String × δ)) (name : String) (default : α)
    (read : δ → Option α) : Option α :=
  match fs.lookup name with
  | none => some default
  | some v => read v

end DemoReel.Json
