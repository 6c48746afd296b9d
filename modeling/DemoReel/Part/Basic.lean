import DemoReel.Graphics.World

/-!
# Parts

A part is a named drawing that a script starts and stops. What it draws is its own business; where
it draws, and when, is kept beside it.
-/

namespace DemoReel

/-- What a part is told about the frame it draws. -/
structure Frame where
  time : Int
  /-- The time since the part was last started. -/
  elapsed : Int
  deriving DecidableEq, Repr

structure PartSettings where
  target : Target := .framebuffer
  /-- Whether the target is cleared before the part draws. -/
  clear : Bool := false
  deriving DecidableEq, Repr, Inhabited

inductive PartStatus where
  | idle
  | running (since : Int)
  deriving DecidableEq, Repr

namespace PartStatus

def isRunning : PartStatus → Bool
  | .idle => false
  | .running _ => true

/-- When the part was started, if it runs. -/
def started? : PartStatus → Option Int
  | .idle => none
  | .running since => some since

end PartStatus

/-- A type whose values draw through a backend of type `σ`. Drawing may change the part, and may
fail for a reason given in words. -/
class Part (π : Type) (σ : Type) where
  render (p : π) (frame : Frame) : World σ → Except String Unit × π × World σ

end DemoReel
