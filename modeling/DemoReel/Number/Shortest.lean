import DemoReel.Number.Integer

/-!
# The shortest decimal text of a binary32 number

A finite number stands for the interval of reals that round to it. Its text uses the coarsest
decimal grid that has a point in that interval, and of the points of that grid the nearest one. The
search needs to look at two points a grid only: if any point lies inside, one of the value's two
neighbours does.
-/

namespace DemoReel.Number

/-- A positive number and the interval that rounds to it, all over one positive denominator. -/
structure Interval where
  low : Nat
  value : Nat
  high : Nat
  denominator : Nat
  /-- Whether the ends belong to the interval. -/
  closed : Bool
  deriving Repr

namespace Interval

/-- The interval of the binary32 number `m * 2 ^ e`. The gap below a power of two is half the gap
above it, except at the bottom of the range. The ends round to the even neighbour. -/
def ofBinary32 (m : Nat) (e : Int) : Interval :=
  let narrowBelow := m == 1 <<< 23 && -149 < e
  let scale := 4 <<< e.toNat
  let half := scale / 2
  { low := m * scale - (if narrowBelow then half / 2 else half)
    value := m * scale
    high := m * scale + half
    denominator := 4 <<< (-e).toNat
    closed := m % 2 == 0 }

/-- Whether `n * 10 ^ k` rounds to the number. -/
def holds (i : Interval) (n : Nat) (k : Int) : Bool :=
  let point := n * Nat.pow 10 k.toNat * i.denominator
  let unit := Nat.pow 10 (-k).toNat
  if i.closed then i.low * unit ≤ point && point ≤ i.high * unit
  else i.low * unit < point && point < i.high * unit

/-- The point of the grid of multiples of `10 ^ k` that is nearest to the value among those inside
the interval, if there is one; the upper one when both are equally near. -/
def nearestOnGrid? (i : Interval) (k : Int) : Option Nat :=
  let numerator := i.value * Nat.pow 10 (-k).toNat
  let step := i.denominator * Nat.pow 10 k.toNat
  let below := numerator / step
  let above := below + 1
  -- twice the distance to the lower neighbour, against a whole step
  let upper := step ≤ 2 * (numerator - below * step)
  match i.holds below k, i.holds above k with
  | true, true => some (if upper then above else below)
  | true, false => some below
  | false, true => some above
  | false, false => none

/-- The first grid with a hit, going from coarse to fine over `fuel` grids. -/
def search (i : Interval) : Nat → Int → Option (Nat × Int)
  | 0, _ => none
  | fuel + 1, k =>
    match i.nearestOnGrid? k with
    | some n => if n = 0 then search i fuel (k - 1) else some (n, k)
    | none => search i fuel (k - 1)

/-- The shortest decimal `n * 10 ^ k` inside. Every binary32 number lies below `10 ^ 39` and is a
multiple of `10 ^ -149`, which bounds the search. -/
def shortest (i : Interval) : Nat × Int := (i.search 200 39).getD (i.value, 0)

end Interval

/-- Digits of `n * 10 ^ k` in positional form, never with an exponent. -/
def positional (n : Nat) (k : Int) : List Char :=
  let ds := digits n
  if 0 ≤ k then ds ++ List.replicate k.toNat '0'
  else
    let places := (-k).toNat
    let ds := List.replicate (places + 1 - ds.length) '0' ++ ds
    ds.take (ds.length - places) ++ '.' :: ds.drop (ds.length - places)

/-- The fewest digits that read back as the same number, positional at every size; `-0` keeps its
sign. -/
def binary32Text (x : Float32) : String :=
  let signed (s : Float.Model.UnpackedFloat.Sign) (t : List Char) : String :=
    String.ofList (match s with | .positive => t | .negative => '-' :: t)
  match x.toModel.unpack with
  | .notANumber => "NaN"
  | .infinity s => signed s "inf".toList
  | .zero s => signed s ['0']
  | .finite s m e _ =>
    let (n, k) := (Interval.ofBinary32 m e).shortest
    signed s (positional n k)

end DemoReel.Number
