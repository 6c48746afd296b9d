import DemoReel.Graphics.Quad
import DemoReel.Number.Binary

/-!
# Effect windows

The time span in which an effect shows, `start` included and `stop` excluded, and the curves that
effects follow in it. Main statements: before, inside and after are three different things
(`contains_or_expired`, `not_expired_of_contains`), and inside the window the position in it is
never negative and less than the duration (`position_of_contains`).
-/

namespace DemoReel

open Number

/-- A time span. -/
structure Window where
  start : Int
  duration : Int
  deriving DecidableEq, Repr, Inhabited

/-- Half a turn in binary32. -/
def halfTurn32 : Float32 := Float32.ofBits 0x40490FDB

/-- Half a turn in binary64. -/
def halfTurn64 : Float := Float.ofBits 0x400921FB54442D18

namespace Window

/-- The first moment after the span; cut off at the end of the time range. -/
def stop (w : Window) : Int := clampInt64 (w.start + w.duration)

def contains (w : Window) (time : Int) : Bool := w.start ≤ time && time < w.stop

/-- The span is over. -/
def expired (w : Window) (time : Int) : Bool := w.stop ≤ time

/-- Where in the span a moment lies: zero at the start and one at the end. A span without duration
has only a start. -/
def progress (w : Window) (time : Int) : Float32 :=
  if w.duration ≤ 0 then 0
  else narrow (binary64OfInt (time - w.start) / binary64OfInt w.duration)

/-- A pulse in the shape of a cosine: one in the middle of the span, zero at its ends and beyond. -/
def pulse (w : Window) (time : Int) : Float32 :=
  if w.duration ≤ 0 then 0
  else
    let middle := binary64OfInt w.start + binary64OfInt w.duration / 2
    let phase := halfTurn64 * (binary64OfInt time - middle) / binary64OfInt w.duration
    let level := phase.cos
    narrow (if 0 < level then level else 0)

/-- Rises in the first quarter of the span, falls in the last, and rests at one between them. -/
def ease (progress : Float32) : Float32 :=
  if 0.25 ≤ progress ∧ progress ≤ 0.75 then 1 else (2 * halfTurn32 * progress).sin.abs

/-- What a shader is told about a moment. -/
def params (w : Window) (time : Int) : ShaderParams where
  seconds := binary32OfInt (time - w.start) / 1000
  progress := w.progress time
  ease := ease (w.progress time)
  easeSin := (halfTurn32 * w.progress time).sin

theorem contains_iff {w : Window} {time : Int} :
    w.contains time = true ↔ w.start ≤ time ∧ time < w.stop := by simp [contains]

theorem expired_iff {w : Window} {time : Int} : w.expired time = true ↔ w.stop ≤ time := by
  simp [expired]

theorem not_expired_of_contains {w : Window} {time : Int} (h : w.contains time = true) :
    w.expired time = false := by
  have := (contains_iff.1 h).2
  simp only [expired, decide_eq_false_iff_not]; omega

theorem contains_or_expired {w : Window} {time : Int} (h : w.start ≤ time) :
    w.contains time = true ∨ w.expired time = true := by
  rw [contains_iff, expired_iff]; omega

theorem position_of_contains {w : Window} {time : Int} (h : w.contains time = true)
    (hs : minInt64 ≤ w.start) : 0 ≤ time - w.start ∧ time - w.start < w.duration := by
  have := contains_iff.1 h
  unfold stop clampInt64 at this
  unfold minInt64 at this hs
  omega

end Window

end DemoReel
