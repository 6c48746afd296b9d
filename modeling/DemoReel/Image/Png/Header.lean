import DemoReel.Image.Basic
import DemoReel.Image.Png.Basic

/-!
# The header of a PNG file

Size, layout of the pixels and order of the rows. A header that asks for anything that the format
does not define describes no picture.
-/

namespace DemoReel.Png

/-- What the samples of a pixel are. -/
inductive Layout where
  | gray
  | rgb
  | palette
  | grayAlpha
  | rgba
  deriving DecidableEq, Repr

namespace Layout

def ofCode? : UInt8 → Option Layout
  | 0 => some .gray
  | 2 => some .rgb
  | 3 => some .palette
  | 4 => some .grayAlpha
  | 6 => some .rgba
  | _ => none

/-- The samples of a pixel. -/
def channels : Layout → Nat
  | .gray => 1
  | .rgb => 3
  | .palette => 1
  | .grayAlpha => 2
  | .rgba => 4

/-- The bits that a sample can have. -/
def depths : Layout → List Nat
  | .gray => [1, 2, 4, 8, 16]
  | .palette => [1, 2, 4, 8]
  | .rgb | .grayAlpha | .rgba => [8, 16]

end Layout

/-- What a header says. -/
structure Header where
  width : Nat
  height : Nat
  /-- The bits of a sample. -/
  depth : Nat
  layout : Layout
  interlaced : Bool
  deriving DecidableEq, Repr

namespace Header

/-- The length of a header. -/
def size : Nat := 13

/-- The header in the content of a chunk. -/
def ofBytes? (body : ByteArray) : Option Header := do
  let width ← readBigEndian? body 0
  let height ← readBigEndian? body 4
  let layout ← Layout.ofCode? (byteAt body 9 255)
  let depth := (byteAt body 8 0).toNat
  let interlacing := byteAt body 12 255
  if body.size = size ∧ 0 < width ∧ 0 < height ∧ depth ∈ layout.depths ∧
      byteAt body 10 255 = 0 ∧ byteAt body 11 255 = 0 ∧ interlacing ≤ 1 then
    some { width, height, depth, layout, interlaced := interlacing = 1 }
  else none

/-- The bits of a pixel. -/
def pixelBits (h : Header) : Nat := h.layout.channels * h.depth

/-- The bytes of a row of `n` pixels. -/
def rowBytes (h : Header) (n : Nat) : Nat := (h.pixelBits * n + 7) / 8

end Header

end DemoReel.Png
