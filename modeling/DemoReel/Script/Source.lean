import DemoReel.Disk
import DemoReel.Script.Reader

/-!
# Where a script comes from

A source can be opened again and again; each time it is read from its first line.
-/

namespace DemoReel.Script

/-- Where a script comes from. -/
inductive Source where
  | file (path : Path)
  | text (content : String)
  deriving DecidableEq, Repr

namespace Source

/-- The directory that the script stands in; a text stands in none. -/
def baseDir : Source → Option Path
  | .file path => path.parent?
  | .text _ => none

/-- Opens a source. A directory can be opened and not be read. -/
def reader (d : Disk) : Source → Except ScriptError Reader
  | .text content => .ok (.ofLines ((Text.lines content).map some))
  | .file path =>
    match d.resolve path with
    | .error why => .error (.opening path why)
    | .ok (_, .directory) => .ok { feed := .broken .isADirectory }
    | .ok (_, .file content) => .ok (.ofLines (Text.decodedLines content.toList))

theorem reader_text (d : Disk) (content : String) :
    (text content).reader d = .ok (.ofLines ((Text.lines content).map some)) := rfl

end Source

end DemoReel.Script
