import DemoReel.Image.Basic
import DemoReel.Image.PrefixCode

/-!
# The segments of a JPEG file

A marker, and the content that it announces: tables that later parts of the file refer to, the frame
(size and components of the picture), and the head of a scan, behind which the compressed data
stands.
-/

namespace DemoReel.Jpeg

/-- One of the planes that make up a picture. -/
structure Component where
  id : UInt8
  /-- Its blocks in a unit, side by side. -/
  across : Nat
  /-- Its blocks in a unit, one below the other. -/
  down : Nat
  quantizer : Nat
  deriving Repr

/-- What a picture consists of. A unit is the smallest part that has all components; the component
with the most blocks in it has all pixels, the others are spread. -/
structure Frame where
  /-- The weights come in several scans. -/
  progressive : Bool
  width : Nat
  height : Nat
  components : Array Component
  deriving Repr

namespace Frame

def maxAcross (f : Frame) : Nat := f.components.foldl (fun n c => max n c.across) 1

def maxDown (f : Frame) : Nat := f.components.foldl (fun n c => max n c.down) 1

def unitsAcross (f : Frame) : Nat := (f.width + 8 * f.maxAcross - 1) / (8 * f.maxAcross)

def unitsDown (f : Frame) : Nat := (f.height + 8 * f.maxDown - 1) / (8 * f.maxDown)

/-- The blocks of a component in a row of units. -/
def blocksAcross (f : Frame) (c : Component) : Nat := f.unitsAcross * c.across

def blocksDown (f : Frame) (c : Component) : Nat := f.unitsDown * c.down

end Frame

/-- The tables that parts of a file refer to by number. -/
structure Tables where
  quantizers : Array (Option (Array Int32)) := Array.replicate 4 none
  /-- Codes for the first weight of a block. -/
  firstCodes : Array (Option PrefixCode) := Array.replicate 4 none
  /-- Codes for the others. -/
  otherCodes : Array (Option PrefixCode) := Array.replicate 4 none
  /-- After how many units the data starts afresh; never, if zero. -/
  interval : Nat := 0
  /-- How the planes were made from colors, if the file says so. -/
  transform? : Option UInt8 := none

/-- A component in a scan, with the codes it is written in. -/
structure ScanPart where
  component : Nat
  firstCode : Nat
  otherCode : Nat
  deriving Repr

/-- Which weights a scan gives, and to which bit. -/
structure Scan where
  parts : List ScanPart
  /-- The first weight, in the stored order. -/
  start : Nat
  /-- The last weight. -/
  stop : Nat
  /-- The lowest bit that earlier scans gave, or zero if there were none. -/
  high : Nat
  /-- The lowest bit that this scan gives. -/
  low : Nat
  deriving Repr

/-- What the segments so far have said. -/
structure Setup where
  tables : Tables := {}
  frame? : Option Frame := none

/-- The number in the two bytes from `i` on, the higher first. -/
def readPair? (data : ByteArray) (i : Nat) : Option Nat :=
  if h : i + 1 < data.size then some (256 * data[i].toNat + data[i + 1].toNat) else none

def readByte? (data : ByteArray) (i : Nat) : Option UInt8 :=
  if h : i < data.size then some data[i] else none

namespace Tables

/-- The most tables of a kind. -/
def count : Nat := 4

/-- Adds the quantizers in a segment. Each is 64 numbers of one byte or of two. -/
def addQuantizers? (body : ByteArray) : Nat → Nat → Tables → Option Tables
  | 0, _, t => some t
  | fuel + 1, i, t =>
    if body.size ≤ i then some t
    else do
      let lead ← readByte? body i
      let width := lead.toNat / 16 + 1
      let slot := lead.toNat % 16
      if 2 < width ∨ count ≤ slot ∨ body.size < i + 1 + 64 * width then none
      let table ← (Array.range 64).mapM fun k =>
        if width = 1 then (readByte? body (i + 1 + k)).map (·.toNat.toInt32)
        else (readPair? body (i + 1 + 2 * k)).map (·.toInt32)
      addQuantizers? body fuel (i + 1 + 64 * width)
        { t with quantizers := t.quantizers.set! slot (some table) }

/-- There is room for the codewords, the last of which is not all ones. `left` of them are of
`length` bits or more, and `code` is what follows the last shorter one. -/
def isCode : List Nat → Nat → Nat → Nat → Bool
  | _, 0, _, _ => true
  | [], _ + 1, _, _ => false
  | count :: counts, left, length, code =>
    let code := 2 * code + count
    code < 1 <<< length && isCode counts (left - count) (length + 1) code

/-- Adds the codes in a segment: for each the numbers of codewords of one to sixteen bits and the
symbols. -/
def addCodes? (body : ByteArray) : Nat → Nat → Tables → Option Tables
  | 0, _, t => some t
  | fuel + 1, i, t =>
    if body.size ≤ i then some t
    else do
      let lead ← readByte? body i
      let slot := lead.toNat % 16
      let counts ← (List.range 16).mapM fun k => (readByte? body (i + 1 + k)).map (·.toNat)
      let symbols := counts.foldl (· + ·) 0
      if 1 < lead.toNat / 16 ∨ count ≤ slot ∨ 256 < symbols ∨ body.size < i + 17 + symbols then none
      let code : PrefixCode := {
        counts
        symbols := (Array.range symbols).map fun k => (byteAt body (i + 17 + k) 0).toNat }
      if !isCode counts symbols 1 0 then none
      if lead.toNat / 16 = 0 then
        if code.symbols.any (15 < ·) then none
        addCodes? body fuel (i + 17 + symbols)
          { t with firstCodes := t.firstCodes.set! slot (some code) }
      else
        addCodes? body fuel (i + 17 + symbols)
          { t with otherCodes := t.otherCodes.set! slot (some code) }

/-- The letters in front of a segment that tells how the planes were made. -/
def transformMark : ByteArray := ⟨#[0x41, 0x64, 0x6F, 0x62, 0x65]⟩

def addTransform? (body : ByteArray) (t : Tables) : Option Tables :=
  if body.extract 0 5 == transformMark then do
    let transform ← readByte? body 11
    if 2 < transform then none
    some { t with transform? := some transform }
  else some t

end Tables

/-- Samples are spread by a power of two. -/
def isFactor (n : Nat) : Bool := n == 1 || n == 2 || n == 4 || n == 8

namespace Frame

def component? (body : ByteArray) (i : Nat) : Option Component := do
  let id ← readByte? body i
  let factors ← readByte? body (i + 1)
  let quantizer ← readByte? body (i + 2)
  let across := factors.toNat / 16
  let down := factors.toNat % 16
  if isFactor across && isFactor down && quantizer.toNat < Tables.count then
    some { id, across, down, quantizer := quantizer.toNat }
  else none

/-- The frame in a segment. Samples have eight bits. A component that stands alone has one block in
a unit, whatever the segment says. -/
def ofBytes? (progressive : Bool) (body : ByteArray) : Option Frame := do
  let depth ← readByte? body 0
  let height ← readPair? body 1
  let width ← readPair? body 3
  let count ← readByte? body 5
  let components ← (Array.range count.toNat).mapM fun k => component? body (6 + 3 * k)
  if depth ≠ 8 ∨ width = 0 ∨ height = 0 ∨ count = 0 ∨ 4 < count ∨
      body.size ≠ 6 + 3 * count.toNat then none
  else if count = 1 then
    some { progressive, width, height
           components := components.map fun c => { c with across := 1, down := 1 } }
  else some { progressive, width, height, components }

end Frame

namespace Scan

/-- The highest bit that a scan can speak of. -/
def maxBit : Nat := 13

def part? (f : Frame) (body : ByteArray) (i : Nat) : Option ScanPart := do
  let id ← readByte? body i
  let codes ← readByte? body (i + 1)
  let component ← f.components.findIdx? (·.id == id)
  some { component, firstCode := codes.toNat / 16, otherCode := codes.toNat % 16 }

/-- The head of a scan. It names at least one component and none twice. -/
def ofBytes? (f : Frame) (body : ByteArray) : Option Scan := do
  let count ← readByte? body 0
  let n := count.toNat
  if n = 0 ∨ 4 < n ∨ body.size ≠ 4 + 2 * n then none
  let parts ← (List.range n).mapM fun k => part? f body (1 + 2 * k)
  let start ← readByte? body (1 + 2 * n)
  let stop ← readByte? body (2 + 2 * n)
  let bits ← readByte? body (3 + 2 * n)
  let high := bits.toNat / 16
  let low := bits.toNat % 16
  if 63 < start ∨ 63 < stop ∨ maxBit < high ∨ maxBit < low ∨
      !(parts.map (·.component)).eraseDups.length == n then none
  some { parts, start := start.toNat, stop := stop.toNat, high, low }

end Scan

/-- The byte in front of every marker. -/
def markerLead : UInt8 := 0xFF

/-- Skips fill bytes and the zeros among them. -/
def markerFrom? (data : ByteArray) : Nat → Nat → Option (UInt8 × Nat)
  | 0, _ => none
  | fuel + 1, i => do
    let m ← readByte? data i
    if m = markerLead ∨ m = 0 then markerFrom? data fuel (i + 1) else some (m, i + 1)

/-- The next marker from byte `i` on, and the byte behind it. What stands in front says nothing. -/
def nextMarker? (data : ByteArray) : Nat → Nat → Option (UInt8 × Nat)
  | 0, _ => none
  | fuel + 1, i => do
    if (← readByte? data i) = markerLead then markerFrom? data (fuel + 1) (i + 1)
    else nextMarker? data fuel (i + 1)

/-- What a marker announces. -/
inductive Marker where
  | frame (progressive : Bool)
  | codes
  | quantizers
  | interval
  | transform
  | scan
  /-- The end of the picture, or a way of writing it that is not read. -/
  | halt
  /-- Something that a picture can do without. -/
  | other
  deriving DecidableEq, Repr

def Marker.ofByte (m : UInt8) : Marker :=
  match m with
  | 0xC0 | 0xC1 => .frame false
  | 0xC2 => .frame true
  | 0xC4 => .codes
  | 0xDB => .quantizers
  | 0xDD => .interval
  | 0xEE => .transform
  | 0xDA => .scan
  | 0xC3 | 0xC5 | 0xC6 | 0xC7 | 0xC9 | 0xCA | 0xCB | 0xCC | 0xCD | 0xCE | 0xCF => .halt
  | 0xD9 | 0xDC => .halt
  | _ => .other

/-- What the content of a segment adds, unless it is the head of a scan. -/
def Setup.add? (s : Setup) (m : Marker) (body : ByteArray) : Option Setup :=
  match m with
  | .frame progressive =>
    if s.frame?.isSome then none
    else (Frame.ofBytes? progressive body).map fun f => { s with frame? := some f }
  | .codes => (s.tables.addCodes? body body.size 0).map fun tables => { s with tables }
  | .quantizers => (s.tables.addQuantizers? body body.size 0).map fun tables => { s with tables }
  | .interval =>
    if body.size = 2 then
      (readPair? body 0).map fun interval => { s with tables := { s.tables with interval } }
    else none
  | .transform => (s.tables.addTransform? body).map fun tables => { s with tables }
  | .scan | .halt => none
  | .other => some s

/-- The segments from byte `i` on up to the head of a scan, which needs a frame before it, and the
byte where its data starts. -/
def readSegments? (data : ByteArray) : Nat → Setup → Nat → Option (Setup × Frame × Scan × Nat)
  | 0, _, _ => none
  | fuel + 1, s, i => do
    let (byte, i) ← nextMarker? data (data.size + 1) i
    let marker := Marker.ofByte byte
    if marker = .halt then none
    let length ← readPair? data i
    if length < 2 ∨ data.size < i + length then none
    let body := data.extract (i + 2) (i + length)
    if marker = .scan then
      let f ← s.frame?
      some (s, f, ← Scan.ofBytes? f body, i + length)
    else readSegments? data fuel (← s.add? marker body) (i + length)

end DemoReel.Jpeg
