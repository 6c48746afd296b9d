import DemoReel.Number.Binary
import DemoReel.Part.Basic

/-!
# Built-in parts

The parts that a manifest can declare. Both fill their target; a pulse changes its brightness with
the time since it was started.
-/

namespace DemoReel

open Number

/-- A full turn in binary32. -/
def fullTurn32 : Float32 := Float32.ofBits 0x40C90FDB

/-- A part that fills its target with a color. -/
inductive Scene where
  | solid (color : Color)
  /-- The brightness goes up and down once in `period` milliseconds. -/
  | pulse (color : Color) (period : Int)
  deriving DecidableEq, Repr

namespace Scene

/-- The period of a pulse that names none. -/
def defaultPeriod : Int := 1000

/-- The brightness of a pulse. A period that is not positive makes it steady. -/
def brightness (period elapsed : Int) : Float32 :=
  if period ≤ 0 then 1
  else
    let phase := binary32OfInt elapsed / binary32OfInt period
    0.5 + 0.5 * (fullTurn32 * phase).sin

/-- The color at a time after the start. -/
def colorAt (elapsed : Int) : Scene → Color
  | .solid color => color
  | .pulse color period => color.dim (brightness period elapsed)

instance {σ : Type} [Graphics σ] : Part Scene σ where
  render s frame w := (.ok (), s, w.after (.draw (.fullscreen (s.colorAt frame.elapsed))))

end Scene

end DemoReel
