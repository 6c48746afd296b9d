/-!
# PNG files

What reading and writing share: the mark in front of every file, numbers, and the cyclic check that
closes each chunk.
-/

namespace DemoReel.Png

def signature : ByteArray := ⟨#[0x89, 0x50, 0x4E, 0x47, 0x0D, 0x0A, 0x1A, 0x0A]⟩

/-- A number in four bytes, the highest first. -/
def bigEndian (n : Nat) : ByteArray :=
  ⟨#[UInt8.ofNat (n >>> 24), UInt8.ofNat (n >>> 16), UInt8.ofNat (n >>> 8), UInt8.ofNat n]⟩

/-- The number in the four bytes from `i` on. -/
def readBigEndian? (data : ByteArray) (i : Nat) : Option Nat :=
  if h : i + 3 < data.size then
    some (data[i].toNat <<< 24 ||| data[i + 1].toNat <<< 16 ||| data[i + 2].toNat <<< 8 |||
      data[i + 3].toNat)
  else none

/-- One bit of the division that the cyclic check is the remainder of. -/
def checkBit (c : UInt32) : UInt32 :=
  if c &&& 1 = 1 then (0xEDB88320 : UInt32) ^^^ (c >>> 1) else c >>> 1

def checkByte (c : UInt32) (b : UInt8) : UInt32 :=
  Nat.repeat checkBit 8 (c ^^^ b.toUInt32)

/-- The cyclic check of a chunk. -/
def cyclicCheck (data : ByteArray) : UInt32 :=
  data.foldl checkByte 0xFFFFFFFF ^^^ 0xFFFFFFFF

end DemoReel.Png
