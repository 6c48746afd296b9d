import DemoReel.Json.Basic
import DemoReel.Number.Binary
import DemoReel.Number.Shortest

/-!
# What JSON numbers are worth

Integers of 64 bits are exact. All others are binary64 numbers, computed in a fixed way that is not
always the nearest: as many leading digits as fit 64 bits, times or divided by a power of ten.
-/

namespace DemoReel.Json

open Number

/-- The worth of a number. -/
inductive Numeral where
  | integer (i : Int)
  | real (x : Float)
  deriving DecidableEq, Repr

/-- Reads digits on after `n` for as long as the value fits 64 bits; the value and the digits that
are left. -/
def significand (n : Nat) : List Char → Nat × List Char
  | [] => (n, [])
  | c :: cs =>
    match digit? c with
    | none => (n, c :: cs)
    | some d => if maxUInt64 < n * 10 + d then (n, c :: cs) else significand (n * 10 + d) cs

/-- The nearest binary64 number to a power of ten. -/
def powerOfTen (k : Nat) : Float := Float.ofModel (Float.Model.ofScientific 1 k)

/-- The largest exponent whose power of ten is a binary64 number. -/
def maxPower : Nat := 308

/-- A significand times a power of ten; none if it is too large. A power too small is taken in
several steps. -/
def scale (x : Float) (e : Int) : Option Float :=
  if _ : 0 ≤ e then
    if e ≤ maxPower then
      let y := x * powerOfTen e.toNat
      if y.isInf then none else some y
    else if x == 0 then some x
    else none
  else if -e ≤ maxPower then some (x / powerOfTen (-e).toNat)
  else if x == 0 then some x
  else scale (x / powerOfTen maxPower) (e + maxPower)
termination_by (-e).toNat
decreasing_by simp only [maxPower]; omega

/-- The largest exponent that is computed with. -/
def maxExponent : Nat := 0x7FFFFFFF

/-- Applies the exponent part to a significand. -/
def applyExponent (n : Nat) (e : Int) : Option (Bool × List Char) → Option Float
  | none => scale (binary64OfInt n) e
  | some (negative, ds) =>
    match readDigits maxExponent .tooLarge 0 ds with
    | .error _ => if n ≠ 0 ∧ !negative then none else some 0
    | .ok p => scale (binary64OfInt n) (if negative then e - p else e + p)

/-- The binary64 number of a lexeme without its sign. -/
def Lexeme.magnitude? (l : Lexeme) : Option Float :=
  let (n, dropped) := significand 0 l.whole
  let (n, e) := match l.fraction with
    | none => (n, (dropped.length : Int))
    | some ds =>
      let (n, rest) := significand n ds
      (n, (dropped.length : Int) - (ds.length - rest.length : Nat))
  applyExponent n e l.exponent

/-- The worth of a lexeme; none if it is too large. Negative zero is no integer. -/
def Lexeme.value? (l : Lexeme) : Option Numeral :=
  let real := l.magnitude?.map fun x => Numeral.real (if l.negative then -x else x)
  match l.fraction, l.exponent, significand 0 l.whole with
  | none, none, (n, []) =>
    if !l.negative then some (.integer n)
    else if 0 < n ∧ n ≤ maxInt64 + 1 then some (.integer (-(n : Int)))
    else real
  | _, _, _ => real

/-- The nearest binary32 number. -/
def Numeral.toBinary32 : Numeral → Float32
  | .integer i => binary32OfInt i
  | .real x => narrow x

/-- The largest count of digits before the point without an exponent. -/
def maxWholeDigits : Int := 13

/-- The number of zeros behind the point, from which on an exponent is used. -/
def maxLeadingZeros : Int := 6

/-- The lexeme of `n * 10 ^ k`. -/
def Lexeme.ofDecimal (negative : Bool) (n : Nat) (k : Int) : Lexeme :=
  let ds := digits n
  let point : Int := ds.length + k
  if 0 ≤ k ∧ point ≤ maxWholeDigits then
    { negative, whole := ds ++ List.replicate k.toNat '0', fraction := some ['0'] }
  else if 0 < point ∧ point ≤ maxWholeDigits then
    { negative, whole := ds.take point.toNat, fraction := some (ds.drop point.toNat) }
  else if -maxLeadingZeros < point ∧ point ≤ 0 then
    { negative, whole := ['0'], fraction := some (List.replicate (-point).toNat '0' ++ ds) }
  else
    { negative
      whole := ds.take 1
      fraction := if ds.length = 1 then none else some (ds.drop 1)
      exponent := some (decide (point - 1 < 0), digits (point - 1).natAbs) }

/-- The fewest digits that stand for a binary32 number; none if it is not finite. -/
def Lexeme.ofBinary32? (x : Float32) : Option Lexeme :=
  match x.toModel.unpack with
  | .notANumber | .infinity _ => none
  | .zero s => some { negative := s matches .negative, whole := ['0'], fraction := some ['0'] }
  | .finite s m e _ =>
    let (n, k) := (Interval.ofBinary32 m e).shortest
    some (.ofDecimal (s matches .negative) n k)

end DemoReel.Json
