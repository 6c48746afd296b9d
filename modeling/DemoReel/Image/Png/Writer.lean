import DemoReel.Image.Basic
import DemoReel.Image.Png.Basic

/-!
# Writing PNG files

Pixels of four bytes, in stored (uncompressed) blocks, which every reader takes.
-/

namespace DemoReel.Png

/-- The checksum behind compressed data: two sums modulo 65521. -/
def runningSums (data : ByteArray) : UInt32 :=
  let (a, b) := data.foldl (fun (a, b) x =>
    let a := (a + x.toUInt32) % 65521
    (a, (b + a) % 65521)) ((1, 0) : UInt32 × UInt32)
  b <<< 16 ||| a

/-- Length, type, data and check. -/
def chunk (kind : String) (data : ByteArray) : ByteArray :=
  let body := kind.toUTF8 ++ data
  bigEndian data.size ++ body ++ bigEndian (cyclicCheck body).toNat

/-- The most that a stored block holds. -/
def maxStored : Nat := 65535

/-- Stored blocks for the data from `start` on, `blocks` of them before the last. -/
def storedFrom (data : ByteArray) : Nat → Nat → ByteArray
  | 0, start =>
    let n := data.size - start
    ⟨#[1, UInt8.ofNat n, UInt8.ofNat (n >>> 8), UInt8.ofNat (0xFFFF - n),
      UInt8.ofNat ((0xFFFF - n) >>> 8)]⟩ ++ data.extract start data.size
  | blocks + 1, start =>
    ⟨#[0, 0xFF, 0xFF, 0, 0]⟩ ++ data.extract start (start + maxStored) ++
      storedFrom data blocks (start + maxStored)

/-- A compressed stream that compresses nothing. -/
def stored (data : ByteArray) : ByteArray :=
  ⟨#[0x78, 0x01]⟩ ++ storedFrom data ((data.size - 1) / maxStored) 0 ++
    bigEndian (runningSums data).toNat

/-- The rows of a picture, each behind the mark "as it is". -/
def plainRows (im : Image) : ByteArray :=
  (List.range im.height).foldl (fun out row =>
    (out.push 0) ++ im.bytes.extract (4 * im.width * row) (4 * im.width * (row + 1))) .empty

/-- The file that holds a picture. -/
def encode (im : Image) : ByteArray :=
  signature ++
    chunk "IHDR" (bigEndian im.width ++ bigEndian im.height ++ ⟨#[8, 6, 0, 0, 0]⟩) ++
    chunk "IDAT" (stored (plainRows im)) ++ chunk "IEND" .empty

end DemoReel.Png
