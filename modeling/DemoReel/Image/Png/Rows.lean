import DemoReel.Image.Basic

/-!
# Rows of a PNG file

Each row stands behind the number of a filter, which replaced every byte by its difference from a
prediction. The rows come in one pass over the picture, or in the seven passes of an interlaced one,
each of which takes a part of the columns and of the rows.
-/

namespace DemoReel.Png

/-- Of the left, the upper and the upper left neighbour, the one nearest to `left + up - corner`. -/
def nearest (left up corner : UInt8) : UInt8 :=
  let a := left.toNat
  let b := up.toNat
  let c := corner.toNat
  let p : Int := a + b - c
  let da := (p - a).natAbs
  let db := (p - b).natAbs
  let dc := (p - c).natAbs
  if da ≤ db ∧ da ≤ dc then left else if db ≤ dc then up else corner

/-- What a filter predicts from the three neighbours. -/
def predict? (filter left up corner : UInt8) : Option UInt8 :=
  match filter with
  | 0 => some 0
  | 1 => some left
  | 2 => some up
  | 3 => some (UInt8.ofNat ((left.toNat + up.toNat) / 2))
  | 4 => some (nearest left up corner)
  | _ => none

/-- Undoes the filters of `height` rows of `width` bytes that begin at byte `start`. `step` is the
distance to the neighbour on the left. -/
def unfilter? (raw : ByteArray) (start step width height : Nat) : Option ByteArray :=
  Nat.foldM height (fun row _ out => do
    let base := start + (width + 1) * row
    Nat.foldM width (fun col _ out =>
      let left := if step ≤ col then byteAt out (width * row + col - step) 0 else 0
      let up := if 0 < row then byteAt out (width * (row - 1) + col) 0 else 0
      let corner :=
        if 0 < row ∧ step ≤ col then byteAt out (width * (row - 1) + col - step) 0 else 0
      (predict? (byteAt raw base 0) left up corner).map fun p =>
        out.push (byteAt raw (base + 1 + col) 0 + p)) out) .empty

/-- Every `dx`th column from `x` on, in every `dy`th row from `y` on. -/
structure Pass where
  x : Nat
  y : Nat
  dx : Nat
  dy : Nat
  deriving DecidableEq, Repr

namespace Pass

/-- All pixels. -/
def whole : Pass := ⟨0, 0, 1, 1⟩

/-- The passes of an interlaced picture, in order. -/
def interlaced : List Pass :=
  [⟨0, 0, 8, 8⟩, ⟨4, 0, 8, 8⟩, ⟨0, 4, 4, 8⟩, ⟨2, 0, 4, 4⟩, ⟨0, 2, 2, 4⟩, ⟨1, 0, 2, 2⟩, ⟨0, 1, 1, 2⟩]

/-- How many columns of a picture are in the pass. -/
def columns (p : Pass) (width : Nat) : Nat := (width - p.x + p.dx - 1) / p.dx

/-- How many rows of a picture are in the pass. A pass without columns has none. -/
def rows (p : Pass) (width height : Nat) : Nat :=
  if p.columns width = 0 then 0 else (height - p.y + p.dy - 1) / p.dy

end Pass

end DemoReel.Png
