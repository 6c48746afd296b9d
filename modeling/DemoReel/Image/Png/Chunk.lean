import DemoReel.Image.Png.Header

/-!
# The chunks of a PNG file

A file is a row of chunks: length, type, content and check. Chunks in front of the pixel data
describe it. A type with a small first letter marks a chunk that a reader may do without; such a
chunk is passed over when something is wrong with it, where any other one spoils the file.
-/

namespace DemoReel.Png

/-- What a chunk is for, as far as a still picture goes. -/
inductive ChunkKind where
  | header
  | palette
  | transparency
  /-- The place of an animation frame. -/
  | frame
  /-- The pixel data of a later animation frame. -/
  | frameData
  | data
  | trailer
  /-- Nothing that a still picture needs. -/
  | ancillary
  /-- Something that must not be passed over, whatever it is. -/
  | unknown
  deriving DecidableEq, Repr

namespace ChunkKind

/-- The types that matter. -/
def named : List (String × ChunkKind) :=
  [("IHDR", .header), ("PLTE", .palette), ("tRNS", .transparency), ("fcTL", .frame),
    ("fdAT", .frameData), ("IDAT", .data), ("IEND", .trailer)]

/-- The bit that makes a letter small. -/
def small : UInt8 := 0x20

def ofBytes (bytes : ByteArray) : ChunkKind :=
  match named.find? (·.1.toUTF8 == bytes) with
  | some (_, kind) => kind
  | none => if byteAt bytes 0 0 &&& small = 0 then .unknown else .ancillary

end ChunkKind

structure Chunk where
  kind : ChunkKind
  body : ByteArray
  /-- The check is right. -/
  isSound : Bool
  /-- Where the next chunk starts. -/
  stop : Nat

/-- The length and the kind of the chunk at byte `i`. -/
def lead? (data : ByteArray) (i : Nat) : Option (Nat × ChunkKind) := do
  let length ← readBigEndian? data i
  let _ ← readBigEndian? data (i + 4)
  some (length, .ofBytes (data.extract (i + 4) (i + 8)))

/-- The chunk at byte `i`, unless the file ends inside it. -/
def chunkAt? (data : ByteArray) (i : Nat) : Option Chunk := do
  let (length, kind) ← lead? data i
  let check ← readBigEndian? data (i + 8 + length)
  some {
    kind
    body := data.extract (i + 8) (i + 8 + length)
    isSound := (cyclicCheck (data.extract (i + 4) (i + 8 + length))).toNat = check
    stop := i + 12 + length }

/-- What the chunks in front of the pixel data say. -/
structure Preface where
  header : Header
  palette? : Option ByteArray := none
  transparency? : Option ByteArray := none
  /-- How many animation frames were announced. -/
  frames : Nat := 0

namespace Preface

/-- The content of a palette: one to 256 colors of three bytes. -/
def isPalette (body : ByteArray) : Bool :=
  body.size % 3 == 0 && 3 ≤ body.size && body.size ≤ 768

/-- The most bytes of a transparency chunk. -/
def maxTransparency : Nat := 256

/-- Whether transparency fits what came before it: one color for gray and for red, green and blue,
opacities behind a palette. -/
def admits (p : Preface) (body : ByteArray) : Bool :=
  p.transparency?.isNone && body.size ≤ maxTransparency &&
    match p.header.layout with
    | .gray => 2 ≤ body.size
    | .rgb => 6 ≤ body.size
    | .palette => p.palette?.isSome && 1 ≤ body.size
    | .grayAlpha | .rgba => false

/-- Whether an animation frame is announced in turn and covers the picture, as one in front of the
pixel data must. The last two bytes choose among three and two ways of drawing it. -/
def announces (p : Preface) (body : ByteArray) : Bool :=
  body.size == 26 && readBigEndian? body 0 == some p.frames &&
    readBigEndian? body 4 == some p.header.width && readBigEndian? body 8 == some p.header.height &&
    readBigEndian? body 12 == some 0 && readBigEndian? body 16 == some 0 &&
    byteAt body 24 255 ≤ 2 && byteAt body 25 255 ≤ 1

/-- The preface with one more chunk. -/
def add? (p : Preface) (c : Chunk) : Option Preface :=
  match c.kind with
  | .ancillary => some p
  | .palette =>
    if c.isSound && p.palette?.isNone && isPalette c.body then
      some { p with palette? := some c.body }
    else none
  | .transparency =>
    if c.isSound && p.admits c.body then some { p with transparency? := some c.body } else some p
  | .frame =>
    if !c.isSound then some p
    else if p.announces c.body then some { p with frames := p.frames + 1 }
    else none
  | .header | .frameData | .data | .trailer | .unknown => none

/-- The preface with the chunks from byte `i` on, and where the pixel data starts. -/
def extend? (data : ByteArray) : Nat → Preface → Nat → Option (Preface × Nat)
  | 0, _, _ => none
  | fuel + 1, p, i => do
    let (_, kind) ← lead? data i
    if kind = .data then some (p, i)
    else
      let c ← chunkAt? data i
      extend? data fuel (← p.add? c) c.stop

/-- The preface of a file, and where its pixel data starts. Every chunk takes a byte at least. -/
def read? (data : ByteArray) : Option (Preface × Nat) := do
  if data.extract 0 signature.size != signature then none
  let first ← chunkAt? data signature.size
  if first.kind ≠ .header ∨ first.isSound = false then none
  extend? data data.size { header := ← Header.ofBytes? first.body } first.stop

end Preface

/-- The content of the data chunks from byte `i` on, behind `run`. They stand together, and another
chunk at least begins behind them. -/
def pixelData? (data : ByteArray) : Nat → ByteArray → Nat → Option ByteArray
  | 0, _, _ => none
  | fuel + 1, run, i => do
    let (_, kind) ← lead? data i
    if kind ≠ .data then some run
    else
      let c ← chunkAt? data i
      if c.isSound then pixelData? data fuel (run ++ c.body) c.stop else none

end DemoReel.Png
