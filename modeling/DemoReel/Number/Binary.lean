import DemoReel.Number.Integer

/-!
# Between integers, binary32 and binary64

Conversions round to nearest, ties to even, and are computed on sign, significand and exponent
exactly. Taking an integer out of a float cuts at the limits of 64 bits and sends "not a number" to
zero.
-/

namespace DemoReel.Number

open Float.Model (UnpackedFloat)

/-- The binary64 number with the same value. -/
def widen (x : Float32) : Float :=
  match x.toModel.unpack with
  | .finite s m e _ => Float.ofModel (Float.Model.pack (UnpackedFloat.round .binary64 s m e))
  | u => Float.ofModel (Float.Model.pack u)

/-- The nearest binary32 number. -/
def narrow (x : Float) : Float32 :=
  match x.toModel.unpack with
  | .finite s m e _ => Float32.ofModel (Float32.Model.pack (UnpackedFloat.round .binary32 s m e))
  | u => Float32.ofModel (Float32.Model.pack u)

/-- The nearest binary32 number to a count. -/
def binary32OfNat (n : Nat) : Float32 :=
  if n < UInt64.size then n.toUInt64.toFloat32 else Float32.ofModel (Float32.Model.ofNat n)

/-- The nearest binary32 number to an integer. -/
def binary32OfInt (i : Int) : Float32 := Float32.ofModel (Float32.Model.ofInt i)

/-- The nearest binary64 number to an integer. -/
def binary64OfInt (i : Int) : Float := Float.ofModel (Float.Model.ofInt i)

/-- `m * 2 ^ e` without its fractional part. -/
def wholePart (m : Nat) (e : Int) : Nat :=
  if 0 ≤ e then m <<< e.toNat else m >>> (-e).toNat

/-- Whether `m * 2 ^ e` is an integer. -/
def isWhole (m : Nat) (e : Int) : Bool :=
  0 ≤ e || m % (1 <<< (-e).toNat) == 0

/-- Cuts an integer off at the limits of 64 signed bits. -/
def clampInt64 (i : Int) : Int := max minInt64 (min i maxInt64)

/-- The largest integer that is not above the number, within 64 signed bits. -/
def floorInt64 (x : Float) : Int :=
  match x.toModel.unpack with
  | .notANumber => 0
  | .infinity .positive => maxInt64
  | .infinity .negative => minInt64
  | .zero _ => 0
  | .finite .positive m e _ => clampInt64 (wholePart m e)
  | .finite .negative m e _ =>
    clampInt64 (if isWhole m e then -(wholePart m e : Int) else -(wholePart m e : Int) - 1)

/-- The number without its fractional part, within 64 signed bits. -/
def truncInt64 (x : Float32) : Int :=
  if x < 0 then clampInt64 (-(-x).toUInt64.toNat) else clampInt64 x.toUInt64.toNat

/-- The nearest byte, a half going up; below zero and "not a number" give zero, above 255 gives
255. -/
def roundToByte (x : Float32) : UInt8 :=
  -- `⌊x + 1/2⌋` is half of `⌊2 x⌋ + 1`, and doubling is exact
  UInt8.ofNat (min 255 (((2 * x).toUInt16.toNat + 1) / 2))

/-- Zero and up to one; "not a number" stays what it is. -/
def clampUnit (x : Float32) : Float32 :=
  if x < 0 then 0 else if 1 < x then 1 else x

end DemoReel.Number
