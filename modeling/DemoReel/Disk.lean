import DemoReel.Fault
import DemoReel.Path

/-!
# Files and directories

A file tree kept as a list of locations, and the working directory that relative names start from.
A location is the list of names from the root; the root itself is always a directory. Every name on
the way to a file must be there and be a directory.
-/

namespace DemoReel

/-- What stands at a location. -/
inductive Entry where
  | directory
  | file (content : ByteArray)

/-- The names from the root down. -/
abbrev Location := List String

/-- A file tree with a working directory. -/
structure Disk where
  entries : List (Location × Entry) := []
  workingDir : Location := []

namespace Path

/-- One move on the way that a path describes. -/
inductive Move where
  | stay
  | up
  | into (name : String)
  deriving DecidableEq, Repr

/-- The move that a piece between slashes stands for. -/
def moveOf? (piece : List Char) : Option Move :=
  if piece = [] then none
  else if piece = ['.'] then some .stay
  else if piece = ['.', '.'] then some .up
  else some (.into (String.ofList piece))

def moves (p : Path) : List Move := (Text.splitOn '/' p.text.toList).filterMap moveOf?

def endsInSlash (p : Path) : Bool := p.text.toList.getLast? == some '/'

/-- The text of a location. -/
def ofLocation (l : Location) : Path :=
  ⟨"/" ++ String.intercalate "/" l⟩

end Path

namespace Disk

def lookup (d : Disk) (l : Location) : Option Entry :=
  if l = [] then some .directory else d.entries.lookup l

/-- Puts an entry at a location, over what stood there. -/
def put (d : Disk) (l : Location) (e : Entry) : Disk :=
  { d with entries := (l, e) :: d.entries.filter (·.1 ≠ l) }

/-- File systems bound the length of a name. -/
def maxNameBytes : Nat := 255

/-- Requests that take a path as it is bound its length. -/
def maxPathBytes : Nat := 4095

/-- The location that the moves lead to. Each one starts from a directory that is there. -/
def walk (d : Disk) : Location → List Path.Move → Except Fault Location
  | l, [] => .ok l
  | l, m :: ms =>
    match d.lookup l with
    | none => .error .noSuchFile
    | some (.file _) => .error .notADirectory
    | some .directory =>
      match m with
      | .stay => d.walk l ms
      | .up => d.walk l.dropLast ms
      | .into n =>
        if maxNameBytes < n.utf8ByteSize then .error .nameTooLong else d.walk (l ++ [n]) ms

/-- Where a path starts. -/
def start (d : Disk) (p : Path) : Location := if p.isAbsolute then [] else d.workingDir

/-- Refuses the names that no request can be made for. -/
def checkName (p : Path) : Except Fault Unit :=
  if p.text.toList.contains '\x00' then .error .nulInName
  else if p.text.isEmpty then .error .noSuchFile
  else .ok ()

/-- Refuses the paths that no request takes as they are. -/
def checkPath (p : Path) : Except Fault Unit := do
  checkName p
  if maxPathBytes < p.text.utf8ByteSize then .error .nameTooLong else .ok ()

/-- The entry that a path leads to, and its location. The path is followed name by name, so it may
be of any length. -/
def follow (d : Disk) (p : Path) : Except Fault (Location × Entry) := do
  checkName p
  let l ← d.walk (d.start p) (p.moves ++ if p.endsInSlash then [.stay] else [])
  match d.lookup l with
  | some e => .ok (l, e)
  | none => .error .noSuchFile

/-- The entry that a path names, and its location. -/
def resolve (d : Disk) (p : Path) : Except Fault (Location × Entry) := do
  checkPath p
  d.follow p

def isDirectory (d : Disk) (p : Path) : Bool :=
  match d.resolve p with
  | .ok (_, .directory) => true
  | _ => false

/-- The absolute path of an entry, with nothing left to resolve. -/
def canonicalize (d : Disk) (p : Path) : Except Fault Path :=
  (d.follow p).map fun (l, _) => Path.ofLocation l

/-- The bytes of a file. -/
def read (d : Disk) (p : Path) : Except Fault ByteArray := do
  match ← d.resolve p with
  | (_, .file content) => .ok content
  | (_, .directory) => .error .isADirectory

/-- The text of a file. -/
def readText (d : Disk) (p : Path) : Except Fault String := do
  let content ← d.read p
  match String.fromUTF8? content with
  | some s => .ok s
  | none => .error .notUtf8

/-- The directory that is to hold what a path names, and its name there, if the path ends in one. -/
def place (d : Disk) (p : Path) : Except Fault (Location × Option String) := do
  checkPath p
  let ms := p.moves
  let l ← d.walk (d.start p) ms.dropLast
  match d.lookup l with
  | none => .error .noSuchFile
  | some (.file _) => .error .notADirectory
  | some .directory =>
    match ms.getLast? with
    | some (.into n) =>
      if maxNameBytes < n.utf8ByteSize then .error .nameTooLong else .ok (l, some n)
    | _ => .ok (l, none)

/-- Writes a file, new or over an old one. -/
def write (d : Disk) (p : Path) (content : ByteArray) : Except Fault Disk := do
  match ← d.place p with
  | (_, none) => .error .isADirectory
  | (l, some n) =>
    if p.endsInSlash then .error .isADirectory
    else match d.lookup (l ++ [n]) with
      | some .directory => .error .isADirectory
      | _ => .ok (d.put (l ++ [n]) (.file content))

/-- Makes one directory inside one that is there. -/
def makeDir (d : Disk) (p : Path) : Except Fault Disk := do
  match ← d.place p with
  | (_, none) => .error .alreadyExists
  | (l, some n) =>
    match d.lookup (l ++ [n]) with
    | some _ => .error .alreadyExists
    | none => .ok (d.put (l ++ [n]) .directory)

/-- Makes a directory and the missing ones above it, over `fuel` levels. What was made stays made
when a later step fails. -/
def makeDirsWithin : Nat → Disk → Path → Except Fault Unit × Disk
  | 0, d, _ => (.error .noSuchFile, d)
  | fuel + 1, d, p =>
    if p.text.isEmpty then (.ok (), d)
    else match d.makeDir p with
      | .ok d' => (.ok (), d')
      | .error .noSuchFile =>
        match p.parent? with
        | none => (.error .noSuchFile, d)
        | some up =>
          match makeDirsWithin fuel d up with
          | (.error f, d') => (.error f, d')
          | (.ok (), d') =>
            match d'.makeDir p with
            | .ok d'' => (.ok (), d'')
            | .error f => if d'.isDirectory p then (.ok (), d') else (.error f, d')
      | .error f => if d.isDirectory p then (.ok (), d) else (.error f, d)

/-- Makes a directory and the missing ones above it. Each level of a path takes a character at
least. -/
def makeDirs (d : Disk) (p : Path) : Except Fault Unit × Disk :=
  makeDirsWithin (p.text.length + 2) d p

/-- Changes the working directory. -/
def enter (d : Disk) (p : Path) : Except Fault Disk := do
  match ← d.resolve p with
  | (l, .directory) => .ok { d with workingDir := l }
  | (_, .file _) => .error .notADirectory

/-- The files and directories directly inside a directory, with their names. -/
def children (d : Disk) (l : Location) : List (String × Entry) :=
  d.entries.filterMap fun (at', e) =>
    match at'.getLast? with
    | some n => if at'.dropLast = l then some (n, e) else none
    | none => none

@[simp] theorem lookup_nil (d : Disk) : d.lookup [] = some .directory := rfl

@[simp] theorem lookup_put_self {d : Disk} {l : Location} {e : Entry} (h : l ≠ []) :
    (d.put l e).lookup l = some e := by
  simp [lookup, put, h]

@[simp] theorem workingDir_put (d : Disk) (l : Location) (e : Entry) :
    (d.put l e).workingDir = d.workingDir := rfl

end Disk

end DemoReel
