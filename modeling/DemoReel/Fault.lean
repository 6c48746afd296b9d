/-!
# Faults of the file system

What the operating system or a file's content can hold against a request, and the words for it.
-/

namespace DemoReel

/-- Why a file or directory could not be used. -/
inductive Fault where
  | noSuchFile
  | alreadyExists
  | notADirectory
  | isADirectory
  | nameTooLong
  /-- The name holds a NUL, which no system call can take. -/
  | nulInName
  /-- The content is not UTF-8 text. -/
  | notUtf8
  deriving DecidableEq, Repr

namespace Fault

/-- The operating system's number for the fault, if it is one of its own. -/
def code? : Fault → Option Nat
  | .noSuchFile => some 2
  | .alreadyExists => some 17
  | .notADirectory => some 20
  | .isADirectory => some 21
  | .nameTooLong => some 36
  | .nulInName | .notUtf8 => none

def message : Fault → String
  | .noSuchFile => "No such file or directory (os error 2)"
  | .alreadyExists => "File exists (os error 17)"
  | .notADirectory => "Not a directory (os error 20)"
  | .isADirectory => "Is a directory (os error 21)"
  | .nameTooLong => "File name too long (os error 36)"
  | .nulInName => "file name contained an unexpected NUL byte"
  | .notUtf8 => "stream did not contain valid UTF-8"

end Fault

end DemoReel
