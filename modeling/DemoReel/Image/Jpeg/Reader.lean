import DemoReel.Image.Jpeg.Plane
import DemoReel.Image.Jpeg.Scan

/-!
# Reading JPEG files

From planes to pixels: gray as it is, brightness with two differences of color, red with green and
blue, and four inks.
-/

namespace DemoReel.Jpeg

/-- What the planes of a picture mean. -/
inductive Colors where
  | gray
  | rgb
  /-- Brightness, and how far blue and red are from it. -/
  | differences
  /-- The light that four inks leave. -/
  | inks
  /-- Brightness and differences of the first three inks, and the fourth. -/
  | inkDifferences
  deriving DecidableEq, Repr

namespace Colors

/-- The ids of components that are red, green and blue as they are. -/
def plainIds : List UInt8 := [0x52, 0x47, 0x42]

/-- What the planes mean: their number decides, then their ids, then what the file says of them. -/
def ofFrame? (f : Frame) (transform? : Option UInt8) : Option Colors :=
  match f.components.size, transform? with
  | 1, _ => some .gray
  | 3, some 2 => if f.components.toList.map (·.id) = plainIds then some .rgb else none
  | 3, t =>
    if f.components.toList.map (·.id) = plainIds ∨ t = some 0 then some .rgb
    else some .differences
  | 4, some 2 => some .inkDifferences
  | 4, _ => some .inks
  | _, _ => none

/-- The nearest byte. -/
def clamp (v : Int) : UInt8 := UInt8.ofNat (min v.toNat 255)

/-- Red, green and blue out of brightness and differences, in parts of 16384. -/
def ofDifferences (y cb cr : Nat) : UInt8 × UInt8 × UInt8 :=
  let base : Int := 16384 * y + 8191
  let blue : Int := (cb : Int) - 128
  let red : Int := (cr : Int) - 128
  (clamp ((base + 22970 * red) / 16384),
    clamp ((base - 11700 * red - 5638 * blue) / 16384),
    clamp ((base + 29032 * blue) / 16384))

/-- The part `k` of 255 of a light. -/
def dim (v k : Nat) : UInt8 :=
  let t := v * k + 128
  UInt8.ofNat ((t + t / 256) / 256)

/-- The color of a pixel out of the values of the planes. -/
def pixel (c : Colors) (value : Nat → Nat) : UInt8 × UInt8 × UInt8 :=
  match c with
  | .gray =>
    let v := UInt8.ofNat (value 0)
    (v, v, v)
  | .rgb => (UInt8.ofNat (value 0), UInt8.ofNat (value 1), UInt8.ofNat (value 2))
  | .differences => ofDifferences (value 0) (value 1) (value 2)
  | .inks => (dim (value 0) (value 3), dim (value 1) (value 3), dim (value 2) (value 3))
  | .inkDifferences =>
    let (r, g, b) := ofDifferences (value 0) (value 1) (value 2)
    (dim (255 - r.toNat) (value 3), dim (255 - g.toNat) (value 3), dim (255 - b.toNat) (value 3))

end Colors

/-- The two bytes in front of every file. -/
def signature : ByteArray := ⟨#[0xFF, 0xD8]⟩

/-- The most memory that the pixels of a file may ask for. -/
def maxBytes : Nat := 512 * 1024 * 1024

/-- The quantizers of the components, in their order. -/
def quantizers? (f : Frame) (t : Tables) : Option (Array (Array Int32)) :=
  f.components.mapM fun c => (t.quantizers[c.quantizer]?).join

/-- Whether the codes that a sequential scan refers to are there. -/
def hasCodes (f : Frame) (t : Tables) (s : Scan) : Bool :=
  f.progressive || s.parts.all fun p =>
    ((t.firstCodes[p.firstCode]?).join).isSome && ((t.otherCodes[p.otherCode]?).join).isSome

/-- The pixels out of planes. Rows of units that are not to be shown are black. -/
def paint (f : Frame) (c : Colors) (planes : Array Plane) (rows : Nat) : ByteArray :=
  Nat.fold f.height (fun y _ out =>
    Nat.fold f.width (fun x _ out =>
      let (r, g, b) :=
        if rows ≤ y / (8 * f.maxDown) then (0, 0, 0)
        else c.pixel fun k => match planes[k]? with
          | some p => p.valueAt x y
          | none => 0
      (((out.push r).push g).push b).push 255) out) .empty

/-- The picture that a file holds. -/
def decode? (data : ByteArray) : Option Image := do
  if data.extract 0 signature.size != signature then none
  let (setup, f, s, i) ← readSegments? data (data.size + 1) {} signature.size
  let colors ← Colors.ofFrame? f setup.tables.transform?
  if maxBytes < f.width * f.height * (if colors = .gray then 1 else 3) then none
  let tables ← quantizers? f setup.tables
  if !hasCodes f setup.tables s then none
  let (w, rows) := readScans data f (data.size + 1) setup s i [] f.blank
  let planes := f.components.mapIdx fun k c =>
    Plane.ofBlocks f c (tables.getD k #[]) (w.getD k #[])
  Image.ofBytes? f.width f.height (paint f colors planes rows)

end DemoReel.Jpeg
