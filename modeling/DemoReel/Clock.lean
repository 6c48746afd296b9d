/-!
# The playback clock

A stopwatch that can be paused, reset and moved. It holds no time of its own: whoever asks says what
the time source reads. While it runs it stores the reading at which its own value was zero; at rest
it stores the value itself, so moving it shifts the value in every state.

All times, here and elsewhere, are whole milliseconds on the virtual timeline; negative ones are
legal. A clock does not care what numbers it counts in. The one that playback goes by counts in 64
bits and wraps around at their ends, as nothing checks its sums and differences.
-/

namespace DemoReel

/-- A stopwatch that counts in numbers of type `τ`. -/
inductive Clock (τ : Type) where
  /-- Counts from the source reading `origin`, where its value is zero. -/
  | running (origin : τ)
  /-- Was stopped at `value`. -/
  | paused (value : τ)
  /-- Has not been started since it was made or reset. -/
  | reset (value : τ)
  deriving DecidableEq, Repr

namespace Clock

variable {τ : Type} [Zero τ] [Add τ] [Sub τ]

/-- A clock that shows zero and stands still. -/
def new : Clock τ := .reset 0

def isRunning : Clock τ → Bool
  | .running _ => true
  | _ => false

/-- What the clock shows when its source reads `now`. -/
def elapsed (now : τ) : Clock τ → τ
  | .running origin => now - origin
  | .paused value => value
  | .reset value => value

/-- Counts on from the value shown; a running clock is left alone. -/
def start (now : τ) : Clock τ → Clock τ
  | .running origin => .running origin
  | .paused value => .running (now - value)
  | .reset value => .running (now - value)

/-- Freezes the value shown; a clock at rest is left alone. -/
def stop (now : τ) : Clock τ → Clock τ
  | .running origin => .paused (now - origin)
  | c => c

/-- Moves the value shown forward. -/
def seekForward (ms : τ) : Clock τ → Clock τ
  | .running origin => .running (origin - ms)
  | .paused value => .paused (value + ms)
  | .reset value => .reset (value + ms)

/-- Moves the value shown back. -/
def seekBack (ms : τ) : Clock τ → Clock τ
  | .running origin => .running (origin + ms)
  | .paused value => .paused (value - ms)
  | .reset value => .reset (value - ms)

/-- Starts a clock at rest and stops a running one. -/
def toggle (now : τ) (c : Clock τ) : Clock τ :=
  if c.isRunning then c.stop now else c.start now

omit [Add τ] in
@[simp] theorem elapsed_new (now : τ) : new.elapsed now = 0 := rfl

omit [Zero τ] [Add τ] in
@[simp] theorem elapsed_stop (now : τ) (c : Clock τ) :
    (c.stop now).elapsed now = c.elapsed now := by
  cases c <;> rfl

end Clock

end DemoReel
