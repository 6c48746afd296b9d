import DemoReel.Number.Binary
import DemoReel.Path

/-!
# Command-line libraries

What the program needs of a library for command lines: it is told how to play, or what to say
before the program ends. How options are spelled and what is said is the library's affair. What the
program relies on is collected in `Library.Lawful`.
-/

namespace DemoReel.CommandLine

/-- How a script is to be played. -/
structure Options where
  script : Path
  manifest : Option Path := none
  /-- The directory to write frames into. -/
  capture : Option Path := none
  fps : Option Float32 := none
  width : Option Nat := none
  height : Option Nat := none
  maxFrames : Option Nat := none
  /-- Whether the viewer controls playback. -/
  controls : Bool := false
  deriving DecidableEq, Repr

/-- What a library has to say when there is nothing to play; the program ends with it. -/
structure Notice where
  /-- Whether the command line asks for just this. If it does not, it is one that cannot be used. -/
  asked : Bool
  status : Nat
  output : String := ""
  errors : String := ""
  deriving DecidableEq, Repr

/-- A library for command lines: what a program that was called by some name makes of its
arguments. -/
abbrev Library := String → List String → Except Notice Options

/-- What libraries for command lines are documented to do. -/
structure Library.Lawful (cl : Library) : Prop where
  /-- What is asked for is said, and that is all. -/
  answered : ∀ {program args notice}, cl program args = .error notice → notice.asked = true →
    notice.status = 0
  /-- A command line that cannot be used ends the program with a status of the library's own. -/
  refused : ∀ {program args notice}, cl program args = .error notice → notice.asked = false →
    notice.status = 2

end DemoReel.CommandLine
