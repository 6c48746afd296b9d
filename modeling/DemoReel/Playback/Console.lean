import DemoReel.Playback.Scheduler

/-!
# Controlling playback by lines

Lines of requests are obeyed one after the other until one asks to quit. What is not understood is
reported and passed over.
-/

namespace DemoReel

variable {π σ : Type}

/-- The scheduler, the world and whether playback is to stop. -/
structure Console (π σ : Type) where
  scheduler : Scheduler π σ
  world : World σ
  stopped : Bool

namespace Console

/-- Obeys one request, and reports what came of it. -/
def obey (reading : Int64) (request : Control) (c : Console π σ) : Console π σ :=
  let (scheduler, world) := c.scheduler.attend reading request c.world
  { c with scheduler, world }

/-- Obeys lines while the source of the clock reads `reading`. A line that is not text ends it. -/
def obeyLines (reading : Int64) (c : Console π σ) : List (Option String) → Console π σ
  | [] => c
  | line :: rest =>
    if c.stopped then c
    else match line with
      | none => { c with world := c.world.note (.controlInputFailed .notUtf8) }
      | some line =>
        match Control.ofLine? line with
        | none =>
          let text := Text.trimmed line
          let world := if text = "" then c.world else c.world.note (.unknownControl text)
          obeyLines reading { c with world } rest
        | some .quit => { c with stopped := true }
        | some request => obeyLines reading (c.obey reading request) rest

end Console

end DemoReel
