import DemoReel.Graphics.World

/-!
# Rehearsal

A backend that draws nothing and opens no file. Each texture and shader that is loaded gets the next
number, whatever its path; paths that are known to be missing are refused.
-/

namespace DemoReel

/-- The state of a rehearsal. -/
structure Rehearsal where
  /-- The next handle to be given out. -/
  handles : UInt32 := 0
  missing : List Path := []

namespace Rehearsal

def isMissing (r : Rehearsal) (p : Path) : Bool := r.missing.any (·.same p)

/-- The state with one more handle given out. -/
def advance (r : Rehearsal) : Rehearsal := { r with handles := r.handles + 1 }

instance : Graphics Rehearsal where
  perform
    | .clear, w | .clearDepth, w | .draw _, w | .bind _, w | .reset, w => ((), w)
    | .present, w | .capture _, w => (.ok (), w)
    | .loadTexture p, w =>
      if w.gfx.isMissing p then (.error (.texture p .notFound), w)
      else (.ok ⟨w.gfx.handles⟩, { w with gfx := w.gfx.advance })
    | .loadShader p _, w =>
      if w.gfx.isMissing p then (.error (.shader p .notFound), w)
      else (.ok ⟨w.gfx.handles⟩, { w with gfx := w.gfx.advance })

end Rehearsal

end DemoReel
