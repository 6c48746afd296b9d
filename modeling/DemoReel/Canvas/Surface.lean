import DemoReel.Graphics.Quad
import DemoReel.Image.Basic
import DemoReel.Number.Binary

/-!
# Surfaces

A rectangle of colors, rows from the top. Sampling and blending work on pixel centres in the unit
square, whose vertical axis points up. A quad is painted in place, row by row. Main statements:
every place that is painted is in range (`place_lt`), and so is every lookup in a texture
(`texelIndex_lt`), whatever the coordinates are.
-/

namespace DemoReel

open Number

/-- A rectangle of colors. -/
structure Surface where
  width : Nat
  height : Nat
  pixels : Array Color
  size_eq : pixels.size = width * height

namespace Surface

/-- One color everywhere. -/
def filled (width height : Nat) (c : Color) : Surface where
  width := width
  height := height
  pixels := Array.replicate (width * height) c
  size_eq := Array.size_replicate

/-- The surface of the same size in one color. -/
def fill (s : Surface) (c : Color) : Surface := filled s.width s.height c

/-- Where the pixel in column `x` and row `y` stands among the pixels; rows follow each other. -/
def place (width x y : Nat) : Nat := y * width + x

theorem place_lt {width height x y : Nat} (hx : x < width) (hy : y < height) :
    place width x y < width * height := by
  unfold place
  calc y * width + x
      < y * width + width := by omega
    _ = (y + 1) * width := by rw [Nat.add_mul, Nat.one_mul]
    _ ≤ height * width := Nat.mul_le_mul_right _ hy
    _ = width * height := Nat.mul_comm _ _

/-- The color at a column and a row. -/
def pixel? (s : Surface) (x y : Nat) : Option Color :=
  if x < s.width ∧ y < s.height then s.pixels[place s.width x y]? else none

/-- An integer, or the bound that it is beyond. The lower bound must not be above the upper one. -/
def clamp (i low high : Int) : Int := if i < low then low else if high < i then high else i

theorem clamp_mem (i : Int) {low high : Int} (h : low ≤ high) :
    low ≤ clamp i low high ∧ clamp i low high ≤ high := by
  unfold clamp
  split
  · omega
  · split <;> omega

/-- Where `position`, from zero to one, falls among `count` cells; outside, the nearest cell. -/
def cell (count : Nat) (position : Float32) : Nat :=
  (clamp (truncInt64 (position * binary32OfNat count)) 0 ((count : Int) - 1)).toNat

theorem cell_lt {count : Nat} (h : 0 < count) (position : Float32) :
    cell count position < count := by
  obtain ⟨hlow, hhigh⟩ := clamp_mem (truncInt64 (position * binary32OfNat count))
    (show (0 : Int) ≤ (count : Int) - 1 by omega)
  unfold cell
  omega

/-- The pixel that a position of the unit square falls on. -/
def texelIndex (s : Surface) (p : Point) : Nat :=
  place s.width (cell s.width p.x) (cell s.height (1 - p.y))

theorem texelIndex_lt {s : Surface} (h : 0 < s.pixels.size) (p : Point) :
    s.texelIndex p < s.pixels.size := by
  rw [size_eq] at h ⊢
  exact place_lt (cell_lt (Nat.pos_of_mul_pos_right h) p.x)
    (cell_lt (Nat.pos_of_mul_pos_left h) (1 - p.y))

/-- The color of the nearest pixel; white where there are no pixels. -/
def sample (s : Surface) (p : Point) : Color :=
  if h : 0 < s.pixels.size then
    have := texelIndex_lt h p
    s.pixels[s.texelIndex p]
  else .white

/-- The horizontal position of the centres of a column of pixels. -/
def columnCenter (width x : Nat) : Float32 := (binary32OfNat x + 0.5) / binary32OfNat width

/-- The vertical position of the centres of a row of pixels. -/
def rowCenter (height y : Nat) : Float32 := 1 - (binary32OfNat y + 0.5) / binary32OfNat height

/-- The centre of the pixel in column `x` and row `y` of a surface of the given size. -/
def center (width height x y : Nat) : Point := ⟨columnCenter width x, rowCenter height y⟩

/-- A source color over an old one, weighted by the opacity of the source. -/
def onto (source old : Color) : Color :=
  let a := clampUnit source.alpha
  { red := source.red * a + old.red * (1 - a)
    green := source.green * a + old.green * (1 - a)
    blue := source.blue * a + old.blue * (1 - a)
    alpha := a + old.alpha * (1 - a) }

/-- What a quad makes of the color `old` at `p`. The texture is stretched over the quad; without
one the quad is plain. -/
def shade (q : Quad) (texture : Option Surface) (p : Point) (old : Color) : Color :=
  match q.blend with
  | .invert => old.invert
  | .alpha =>
    let uv := (p.sub q.min).div (q.max.sub q.min)
    let texel := (texture.map (·.sample uv)).getD .white
    onto (q.color.modulate texel) old

section

variable {width height : Nat} (q : Quad) (texture : Option Surface)

/-- Shades the pixel in column `x` and row `y`. -/
def paintPixel (x y : Nat) (hx : x < width) (hy : y < height)
    (pixels : Vector Color (width * height)) : Vector Color (width * height) :=
  have h := place_lt hx hy
  pixels.set (place width x y)
    (shade q texture (center width height x y) pixels[place width x y])

/-- Shades the pixels of row `y` whose columns the quad spans, from left to right. -/
def paintRow (y : Nat) (hy : y < height) (pixels : Vector Color (width * height)) :
    Vector Color (width * height) :=
  width.fold (fun x hx pixels =>
    if q.spansColumn (columnCenter width x) then paintPixel q texture x y hx hy pixels
    else pixels) pixels

/-- Shades the rows that the quad spans, from the top. -/
def paint (pixels : Vector Color (width * height)) : Vector Color (width * height) :=
  height.fold (fun y hy pixels =>
    if q.spansRow (rowCenter height y) then paintRow q texture y hy pixels else pixels) pixels

end

/-- The surface after a quad has been painted on it. -/
def composite (s : Surface) (q : Quad) (texture : Option Surface) : Surface where
  width := s.width
  height := s.height
  pixels := (paint q texture ⟨s.pixels, s.size_eq⟩).toArray
  size_eq := Vector.size_toArray _

/-- The surface of a picture. -/
def ofImage (im : Image) : Surface where
  width := im.width
  height := im.height
  pixels := Array.ofFn fun i : Fin (im.width * im.height) =>
    let (r, g, b, a) := im.pixel i
    Color.divide ⟨r.toFloat32, g.toFloat32, b.toFloat32, a.toFloat32⟩ 255
  size_eq := Array.size_ofFn

/-- A color in four bytes. -/
def channelBytes (c : Color) : Array UInt8 :=
  let byte (x : Float32) : UInt8 := roundToByte (clampUnit x * 255)
  #[byte c.red, byte c.green, byte c.blue, byte c.alpha]

@[simp] theorem size_channelBytes (c : Color) : (channelBytes c).size = 4 := rfl

theorem size_flatMap_channelBytes (cs : Array Color) :
    (cs.flatMap channelBytes).size = 4 * cs.size := by
  simp [Array.size_flatMap, Array.map_const', Nat.mul_comm]

/-- The picture of a surface. -/
def toImage (s : Surface) : Image where
  width := s.width
  height := s.height
  bytes := ⟨s.pixels.flatMap channelBytes⟩
  size_eq := (size_flatMap_channelBytes s.pixels).trans (congrArg (4 * ·) s.size_eq)

@[simp] theorem width_composite (s : Surface) (q : Quad) (t : Option Surface) :
    (s.composite q t).width = s.width := rfl

@[simp] theorem height_composite (s : Surface) (q : Quad) (t : Option Surface) :
    (s.composite q t).height = s.height := rfl

end Surface

end DemoReel
