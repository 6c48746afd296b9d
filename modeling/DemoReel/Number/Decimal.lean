import DemoReel.Number.Integer

/-!
# Decimal text to binary32

The grammar of a decimal number and its value, rounded once, straight to the nearest binary32
number. Infinity and "not a number" have names that are read in any case.
-/

namespace DemoReel.Number

/-- Why a text is no decimal number. -/
inductive DecimalFault where
  | empty
  | invalid
  deriving DecidableEq, Repr

def DecimalFault.message : DecimalFault → String
  | .empty => "cannot parse float from empty string"
  | .invalid => "invalid float literal"

/-- A decimal number as it is written: a sign and a magnitude. -/
inductive Magnitude where
  /-- `significand * 10 ^ exponent` -/
  | finite (significand : Nat) (exponent : Int)
  | infinity
  | notANumber
  deriving DecidableEq, Repr

/-- The leading digits and what follows them. -/
def spanDigits (cs : List Char) : List Char × List Char :=
  cs.span fun c => (digit? c).isSome

/-- The value of a sequence of digits. -/
def digitsToNat (ds : List Char) : Nat :=
  ds.foldl (fun n c => n * 10 + (c.toNat - '0'.toNat)) 0

/-- Once an exponent has come to this, its further digits are read and left out of account. -/
def exponentLimit : Nat := 0x10000

/-- The value of the digits of an exponent. -/
def exponentValue (ds : List Char) : Nat :=
  ds.foldl (fun n c => if n < exponentLimit then n * 10 + (c.toNat - '0'.toNat) else n) 0

/-- An exponent part: a marker, an optional sign and at least one digit. No exponent part at all
stands for zero. -/
def exponentPart? : List Char → Option Int
  | [] => some 0
  | c :: cs =>
    if c = 'e' ∨ c = 'E' then
      let signed (negative : Bool) (ds : List Char) : Option Int :=
        if ds.isEmpty ∨ ds.any (fun d => (digit? d).isNone) then none
        else some (if negative then -(exponentValue ds : Int) else exponentValue ds)
      match cs with
      | '+' :: ds => signed false ds
      | '-' :: ds => signed true ds
      | ds => signed false ds
    else none

/-- More digits than can matter behind the leading zeros: a point halfway between two neighbouring
binary32 numbers has 113 of them at most. -/
def maxDigits : Nat := 120

/-- The number that digits stand for, or one on the same side of every halfway point. Digits that
cannot matter are left out; if one of them is not zero, a last digit of one keeps their place. -/
def ofDigits (ds : List Char) (exponent : Int) : Magnitude :=
  let (kept, dropped) := (ds.dropWhile (· == '0')).splitAt maxDigits
  if dropped.all (· == '0') then .finite (digitsToNat kept) (exponent + dropped.length)
  else .finite (digitsToNat kept * 10 + 1) (exponent + dropped.length - 1)

/-- Digits with an optional point among or around them, then an optional exponent. -/
def finiteMagnitude? (cs : List Char) : Option Magnitude :=
  let (whole, rest) := spanDigits cs
  let (fraction, rest) := match rest with
    | '.' :: more => spanDigits more
    | _ => ([], rest)
  if whole.isEmpty ∧ fraction.isEmpty then none
  else (exponentPart? rest).map fun e => ofDigits (whole ++ fraction) (e - fraction.length)

/-- A magnitude without its sign: a name, or a decimal number. -/
def magnitude? (cs : List Char) : Option Magnitude :=
  let name := cs.map Char.toLower
  if name = "inf".toList ∨ name = "infinity".toList then some .infinity
  else if name = "nan".toList then some .notANumber
  else finiteMagnitude? cs

/-- The nearest binary32 number. -/
def Magnitude.toBinary32 : Magnitude → Float32
  | .finite m e => Float32.ofModel (Float32.Model.ofScientific m e)
  | .infinity => Float32.ofBits 0x7F800000
  | .notANumber => Float32.ofBits 0x7FC00000

/-- Reads a decimal number with an optional sign. -/
def readBinary32 : List Char → Except DecimalFault Float32
  | [] => .error .empty
  | '+' :: cs => (magnitude? cs).elim (.error .invalid) fun m => .ok m.toBinary32
  | '-' :: cs => (magnitude? cs).elim (.error .invalid) fun m => .ok (-m.toBinary32)
  | cs => (magnitude? cs).elim (.error .invalid) fun m => .ok m.toBinary32

end DemoReel.Number
