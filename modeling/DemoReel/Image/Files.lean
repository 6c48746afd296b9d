import DemoReel.Image.Basic
import DemoReel.Image.Format
import DemoReel.Image.Jpeg.Reader
import DemoReel.Image.Png.Reader
import DemoReel.Image.Png.Writer

/-!
# Picture files

A library for pictures. The extension of a file's name tells the format of its content. Two formats
are read and one is written.
-/

namespace DemoReel

/-- How files of a format are read, if they are. -/
def ImageFormat.decoder? : ImageFormat → Option (ByteArray → Option Image)
  | .png => some Png.decode?
  | .jpeg => some Jpeg.decode?
  | _ => none

namespace Image

/-- The format that a path's extension stands for. -/
def formatOf (p : Path) : Except ResourceFault ImageFormat :=
  match p.extension? with
  | none => .error (.unknownFormat none)
  | some e =>
    match ImageFormat.ofExtension? e with
    | none => .error (.unknownFormat (some e))
    | some format => .ok format

/-- Reads a picture file. -/
def readFile (d : Disk) (p : Path) : Except ResourceFault Image :=
  match d.resolve p with
  | .error f => .error (.file f)
  | .ok (_, entry) =>
    match formatOf p with
    | .error why => .error why
    | .ok format =>
      match format.decoder?, entry with
      | none, _ => .error (.unreadable format)
      | some _, .directory => .error (.file .isADirectory)
      | some decode?, .file content =>
        (decode? content).elim (.error (.undecodable format)) .ok

/-- Writes a picture to a file. The file is made before its format is looked into further, so that a
format that cannot be written leaves an empty file behind. -/
def writeFile (im : Image) (p : Path) (d : Disk) : Except ResourceFault Unit × Disk :=
  match formatOf p with
  | .error why => (.error why, d)
  | .ok format =>
    let content := match format with
      | .png => Png.encode im
      | _ => .empty
    match d.write p content with
    | .error f => (.error (.file f), d)
    | .ok disk =>
      let result := match format with
        | .png => .ok ()
        | _ => .error (.unwritable format)
      (result, disk)

instance : Library where
  load := readFile
  save := writeFile

end Image

end DemoReel
