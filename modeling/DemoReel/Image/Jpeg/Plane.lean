import DemoReel.Image.Basic
import DemoReel.Image.Jpeg.Block
import DemoReel.Image.Jpeg.Segment

/-!
# The planes of a JPEG file

The samples of a component, and how a plane with fewer samples than pixels is spread over them: by
two, each pixel takes three parts of the nearest sample and one of the next; by more, the nearest
sample alone.
-/

namespace DemoReel.Jpeg

/-- The samples of a component, row by row, in whole blocks. -/
structure Plane where
  width : Nat
  height : Nat
  samples : ByteArray
  /-- How many pixels a sample is spread over, side by side. -/
  stretchX : Nat
  /-- The same, one below the other. -/
  stretchY : Nat

namespace Plane

/-- Eight rows of samples out of a row of blocks. -/
def putRows (blocks : Array ByteArray) (out : ByteArray) : ByteArray :=
  Nat.fold 8 (fun row _ out =>
    blocks.foldl (fun out b => out ++ b.extract (8 * row) (8 * row + 8)) out) out

/-- The plane of a component. -/
def ofBlocks (f : Frame) (c : Component) (table : Array Int32) (blocks : Array Block) : Plane :=
  let across := f.blocksAcross c
  let down := f.blocksDown c
  { width := 8 * across
    height := 8 * down
    samples := Nat.fold down (fun row _ out =>
      putRows ((blocks.extract (row * across) ((row + 1) * across)).map (·.samples table)) out)
      .empty
    stretchX := f.maxAcross / c.across
    stretchY := f.maxDown / c.down }

def sampleAt (p : Plane) (x y : Nat) : Nat := (byteAt p.samples (y * p.width + x) 0).toNat

/-- Three parts of one sample and one of another, rounded. -/
def blend (near far : Nat) : Nat := (3 * near + far + 2) / 4

/-- Of `size` samples in a line, the one that pixel `i` lies on and the one it lies next to, two
pixels to a sample. The last sample but one reaches over the first pixel of the last. -/
def neighbours (size i : Nat) : Nat × Nat :=
  let k := i / 2
  if i % 2 = 1 then (k, min (k + 1) (size - 1))
  else if k + 1 = size ∧ 0 < k then (k - 1, k)
  else (k, k - 1)

/-- The rows that row `y` of pixels lies on and next to, two to a row of samples. -/
def rowsAt (p : Plane) (y : Nat) : Nat × Nat :=
  let k := y / 2
  (k, if y % 2 = 1 then min (k + 1) (p.height - 1) else k - 1)

/-- The value of the plane at a pixel. -/
def valueAt (p : Plane) (x y : Nat) : Nat :=
  match p.stretchX, p.stretchY with
  | 1, 1 => p.sampleAt x y
  | 2, 1 =>
    let (near, far) := neighbours p.width x
    blend (p.sampleAt near y) (p.sampleAt far y)
  | 1, 2 =>
    let (near, far) := p.rowsAt y
    blend (p.sampleAt x near) (p.sampleAt x far)
  | 2, 2 =>
    let (near, far) := p.rowsAt y
    let column (x : Nat) := blend (p.sampleAt x near) (p.sampleAt x far)
    let (left, right) := neighbours p.width x
    blend (column left) (column right)
  | sx, sy => p.sampleAt (x / sx) (y / sy)

end Plane

end DemoReel.Jpeg
