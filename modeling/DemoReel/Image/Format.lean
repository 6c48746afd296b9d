/-!
# Picture formats

The extension of a file's name tells which format its content is in, whatever the content looks
like. Of the formats that have an extension only two are read, and one is written.
-/

namespace DemoReel

/-- A picture format that an extension can stand for. -/
inductive ImageFormat where
  | png
  | jpeg
  | gif
  | webP
  | pnm
  | tiff
  | tga
  | dds
  | bmp
  | ico
  | hdr
  | openExr
  | farbfeld
  | avif
  | qoi
  deriving DecidableEq, Repr

namespace ImageFormat

def text : ImageFormat → String
  | .png => "Png"
  | .jpeg => "Jpeg"
  | .gif => "Gif"
  | .webP => "WebP"
  | .pnm => "Pnm"
  | .tiff => "Tiff"
  | .tga => "Tga"
  | .dds => "Dds"
  | .bmp => "Bmp"
  | .ico => "Ico"
  | .hdr => "Hdr"
  | .openExr => "OpenExr"
  | .farbfeld => "Farbfeld"
  | .avif => "Avif"
  | .qoi => "Qoi"

/-- The extensions of a format, in lower case. -/
def extensions : ImageFormat → List String
  | .png => ["png", "apng"]
  | .jpeg => ["jpg", "jpeg", "jfif"]
  | .gif => ["gif"]
  | .webP => ["webp"]
  | .pnm => ["pbm", "pam", "ppm", "pgm", "pnm"]
  | .tiff => ["tif", "tiff"]
  | .tga => ["tga"]
  | .dds => ["dds"]
  | .bmp => ["bmp"]
  | .ico => ["ico"]
  | .hdr => ["hdr"]
  | .openExr => ["exr"]
  | .farbfeld => ["ff"]
  | .avif => ["avif"]
  | .qoi => ["qoi"]

def all : List ImageFormat :=
  [.png, .jpeg, .gif, .webP, .pnm, .tiff, .tga, .dds, .bmp, .ico, .hdr, .openExr, .farbfeld, .avif,
    .qoi]

/-- The format that an extension stands for; the case of its letters does not matter. -/
def ofExtension? (e : String) : Option ImageFormat :=
  let e := String.ofList (e.toList.map Char.toLower)
  all.find? (·.extensions.contains e)

theorem mem_all (f : ImageFormat) : f ∈ all := by
  cases f <;> decide

end ImageFormat

end DemoReel
