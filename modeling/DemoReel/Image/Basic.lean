import DemoReel.Disk
import DemoReel.Error

/-!
# Pictures

Eight bits for each of red, green, blue and opacity, rows from the top, as picture files hold them,
and what a backend that loads textures and captures frames needs of a library for such files.
-/

namespace DemoReel

/-- The byte at `i`, or `default` past the end. -/
def byteAt (data : ByteArray) (i : Nat) (default : UInt8) : UInt8 :=
  if h : i < data.size then data[i] else default

/-- A rectangle of pixels, four bytes each. -/
structure Image where
  width : Nat
  height : Nat
  bytes : ByteArray
  size_eq : bytes.size = 4 * (width * height)

namespace Image

/-- The picture whose bytes these are, if there are as many as its size asks for. -/
def ofBytes? (width height : Nat) (bytes : ByteArray) : Option Image :=
  if h : bytes.size = 4 * (width * height) then some { width, height, bytes, size_eq := h }
  else none

/-- The four bytes of pixel number `i`. -/
def pixel (im : Image) (i : Fin (im.width * im.height)) : UInt8 × UInt8 × UInt8 × UInt8 :=
  have h := im.size_eq
  have hi := i.isLt
  (im.bytes[4 * i.val], im.bytes[4 * i.val + 1], im.bytes[4 * i.val + 2],
    im.bytes[4 * i.val + 3])

/-- A library for pictures. It opens picture files and makes them; which formats there are, and how
a picture is kept in one, is its own affair. That a picture has as many pixels as its size says is
part of what a picture is. -/
class Library where
  /-- The picture in a file. -/
  load : Disk → Path → Except ResourceFault Image
  /-- Makes a file of a picture; also a file that is not finished may be left on the disk. -/
  save : Image → Path → Disk → Except ResourceFault Unit × Disk

end Image

end DemoReel
