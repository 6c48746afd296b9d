import DemoReel.Text.Blank

/-!
# Paths

A path is its text. Two texts name the same path when they have the same components: repeated
slashes, a trailing slash and a `.` that is not in front say nothing.
-/

namespace DemoReel

/-- A file path, as it was written. -/
structure Path where
  text : String
  deriving DecidableEq, Repr, Inhabited

namespace Path

/-- What a path says, piece by piece. -/
inductive Component where
  | root
  /-- A `.` at the front of a relative path. -/
  | here
  | up
  | name (text : String)
  deriving DecidableEq, Repr

def isAbsolute (p : Path) : Bool := p.text.toList.head? == some '/'

/-- A piece between slashes that says nothing. -/
def isIdle (piece : List Char) : Bool := piece == [] || piece == ['.']

/-- The component that a piece between slashes stands for. -/
def componentOf? (piece : List Char) : Option Component :=
  if isIdle piece then none
  else if piece = ['.', '.'] then some .up
  else some (.name (String.ofList piece))

def components (p : Path) : List Component :=
  match p.text.toList with
  | '/' :: rest => .root :: (Text.splitOn '/' rest).filterMap componentOf?
  | cs =>
    match Text.splitOn '/' cs with
    | ['.'] :: pieces => .here :: pieces.filterMap componentOf?
    | pieces => pieces.filterMap componentOf?

/-- Both texts name one path. -/
def same (p q : Path) : Bool := p.components == q.components

/-- `q` seen from the directory `p`; an absolute `q` stands for itself. -/
def join (p q : Path) : Path :=
  if q.isAbsolute then q
  else if p.text.isEmpty || p.text.toList.getLast? == some '/' then ⟨p.text ++ q.text⟩
  else ⟨p.text ++ "/" ++ q.text⟩

/-- The front of a text that no removal of a component touches, and the rest. -/
def splitLead : List Char → List Char × List Char
  | '/' :: rest => (['/'], rest)
  | ['.'] => (['.'], [])
  | '.' :: '/' :: rest => (['.'], '/' :: rest)
  | cs => ([], cs)

/-- The path without its last component; a root and an empty path have none to lose. -/
def parent? (p : Path) : Option Path :=
  let (lead, body) := splitLead p.text.toList
  match (Text.splitOn '/' body).reverse.dropWhile isIdle with
  | _ :: rest =>
    let kept := (rest.dropWhile isIdle).reverse
    some ⟨String.ofList (lead ++ (kept.intersperse ['/']).flatten)⟩
  | [] => if lead = ['.'] then some ⟨""⟩ else none

/-- The name that the path ends in, if it ends in one. -/
def fileName? (p : Path) : Option String :=
  match p.components.getLast? with
  | some (.name n) => some n
  | _ => none

/-- What follows the last dot of the file name; a dot in front starts no extension. -/
def extension? (p : Path) : Option String :=
  p.fileName?.bind fun n =>
    match (Text.splitOn '.' n.toList).reverse with
    | [_] | [_, []] => none
    | last :: _ => some (String.ofList last)
    | [] => none

@[simp] theorem same_self (p : Path) : p.same p = true := by simp [same]

theorem same_iff {p q : Path} : p.same q = true ↔ p.components = q.components := by simp [same]

end Path

end DemoReel
