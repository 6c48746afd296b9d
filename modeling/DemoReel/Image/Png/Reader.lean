import DemoReel.Image.Inflate
import DemoReel.Image.Png.Chunk
import DemoReel.Image.Png.Rows

/-!
# Reading PNG files

From samples of one to sixteen bits, in any layout, to pixels of four bytes. Samples of fewer bits
are spread over the range of a byte, those of sixteen rounded to it. A transparency chunk takes one
color out of a picture, or gives the colors of a palette their opacities.
-/

namespace DemoReel.Png

/-- Sample number `k` of the row that begins at byte `base`. -/
def sampleAt (rows : ByteArray) (base depth k : Nat) : Nat :=
  if depth = 16 then
    256 * (byteAt rows (base + 2 * k) 0).toNat + (byteAt rows (base + 2 * k + 1) 0).toNat
  else
    (byteAt rows (base + depth * k / 8) 0).toNat >>> (8 - depth - depth * k % 8) % (1 <<< depth)

/-- A sample as a byte. -/
def sampleByte (depth v : Nat) : UInt8 :=
  if depth = 16 then UInt8.ofNat ((v + 128) / 257) else UInt8.ofNat (v * (255 / (1 <<< depth - 1)))

namespace Preface

/-- The samples of the color that a transparency chunk takes out. It gives two bytes to each; of
fewer than sixteen bits the second byte is one. Sixteen bits leave no room for further bytes. -/
def clearColor? (p : Preface) : Option (List Nat) :=
  let channels := p.header.layout.channels
  p.transparency?.bind fun body =>
    if p.header.layout = .palette then none
    else if p.header.depth < 16 then
      some ((List.range channels).map fun k => (byteAt body (2 * k + 1) 0).toNat)
    else if body.size = 2 * channels then
      some ((List.range channels).map fun k => sampleAt body 0 16 k)
    else none

/-- The opacities of the colors of the palette; none if there are more of them than colors. -/
def opacities (p : Preface) : ByteArray :=
  match p.palette?, p.transparency? with
  | some palette, some body => if body.size ≤ palette.size / 3 then body else .empty
  | _, _ => .empty

/-- Everything that turns samples into the bytes of a pixel. -/
structure Coloring where
  layout : Layout
  depth : Nat
  clear? : Option (List Nat)
  palette : ByteArray
  opacities : ByteArray

/-- How the pixels of a file are colored. A layout that needs a palette must have one. -/
def coloring? (p : Preface) : Option Coloring :=
  if p.header.layout = .palette ∧ p.palette?.isNone then none
  else some {
    layout := p.header.layout
    depth := p.header.depth
    clear? := p.clearColor?
    palette := p.palette?.getD .empty
    opacities := p.opacities }

/-- How many bytes the pixels take while the samples are brought to whole bytes. -/
def expandedBytes (p : Preface) : Nat :=
  let channels := match p.header.layout, p.transparency? with
    | .palette, none => 3
    | .palette, some _ => 4
    | l, some _ => l.channels + 1
    | l, none => l.channels
  p.header.width * p.header.height * channels * ((p.header.depth + 7) / 8)

end Preface

namespace Preface.Coloring

/-- The opacity of a pixel with these samples. -/
def opacityOf (c : Coloring) (samples : List Nat) : UInt8 :=
  if c.clear? = some samples then 0 else 255

/-- The bytes of pixel number `k` of the row that begins at byte `base`. A color that the palette
does not have is black. -/
def pixel (c : Coloring) (rows : ByteArray) (base k : Nat) : UInt8 × UInt8 × UInt8 × UInt8 :=
  let sample (j : Nat) := sampleAt rows base c.depth (c.layout.channels * k + j)
  let byte (v : Nat) := sampleByte c.depth v
  match c.layout with
  | .gray =>
    let v := sample 0
    (byte v, byte v, byte v, c.opacityOf [v])
  | .rgb =>
    let r := sample 0
    let g := sample 1
    let b := sample 2
    (byte r, byte g, byte b, c.opacityOf [r, g, b])
  | .palette =>
    let v := sample 0
    (byteAt c.palette (3 * v) 0, byteAt c.palette (3 * v + 1) 0, byteAt c.palette (3 * v + 2) 0,
      byteAt c.opacities v 255)
  | .grayAlpha =>
    let v := sample 0
    (byte v, byte v, byte v, byte (sample 1))
  | .rgba => (byte (sample 0), byte (sample 1), byte (sample 2), byte (sample 3))

end Preface.Coloring

/-- Puts the four bytes of a pixel in their place. -/
def setPixel (out : ByteArray) (i : Nat) (p : UInt8 × UInt8 × UInt8 × UInt8) : ByteArray :=
  let (r, g, b, a) := p
  (((out.set! (4 * i) r).set! (4 * i + 1) g).set! (4 * i + 2) b).set! (4 * i + 3) a

/-- The bytes that a pass takes, with those for its filters. -/
def passBytes (h : Header) (p : Pass) : Nat :=
  (1 + h.rowBytes (p.columns h.width)) * p.rows h.width h.height

/-- Draws a pass whose rows begin at byte `start`. -/
def drawPass? (h : Header) (c : Preface.Coloring) (raw : ByteArray) (start : Nat) (p : Pass)
    (out : ByteArray) : Option ByteArray := do
  let columns := p.columns h.width
  let width := h.rowBytes columns
  let height := p.rows h.width h.height
  let rows ← unfilter? raw start (max 1 (h.pixelBits / 8)) width height
  some <| Nat.fold height (fun row _ out =>
    Nat.fold columns (fun col _ out =>
      setPixel out ((p.y + p.dy * row) * h.width + (p.x + p.dx * col))
        (c.pixel rows (width * row) col)) out) out

/-- Draws passes one behind the other. -/
def drawPasses? (h : Header) (c : Preface.Coloring) (raw : ByteArray) :
    List Pass → Nat → ByteArray → Option ByteArray
  | [], _, out => some out
  | p :: ps, start, out => do
    drawPasses? h c raw ps (start + passBytes h p) (← drawPass? h c raw start p out)

/-- The most memory that the pixels of a file may ask for. -/
def maxBytes : Nat := 512 * 1024 * 1024

/-- The picture that the preface and the rows of a file describe. Rows beyond the last say
nothing. -/
def picture? (p : Preface) (raw : ByteArray) : Option Image := do
  let h := p.header
  let passes := if h.interlaced then Pass.interlaced else [.whole]
  if raw.size < passes.foldl (fun n p => n + passBytes h p) 0 then none
  let blank : ByteArray := ⟨Array.replicate (4 * (h.width * h.height)) 0⟩
  Image.ofBytes? h.width h.height (← drawPasses? h (← p.coloring?) raw passes 0 blank)

/-- The picture that a file holds. -/
def decode? (data : ByteArray) : Option Image := do
  let (p, i) ← Preface.read? data
  if maxBytes < p.expandedBytes then none
  picture? p (← Inflate.inflate? (← pixelData? data data.size .empty i))

end DemoReel.Png
