import DemoReel.Clock
import DemoReel.Dispatch
import DemoReel.Playback.Control
import DemoReel.Script.Source

/-!
# The scheduler

A clock, the parts, the effects and the script that plays. Draining carries out every command that
is due, in the order of the script; a failed command is reported and is no reason to stop. A source
that cannot be opened leaves everything as it was.
-/

namespace DemoReel

/-- Everything that a reel plays with. -/
structure Scheduler (π σ : Type) where
  table : CommandTable π σ
  clock : Clock Int64 := .new
  registry : Registry π := .empty
  timeline : Timeline := {}
  source : Option Script.Source := none
  reader : Option Script.Reader := none
  assets : Assets := {}
  /-- A command has ended the reel. -/
  ended : Bool := false

/-- A command that was carried out or failed. -/
structure Dispatched where
  due : Int
  keyword : Keyword
  succeeded : Bool
  deriving DecidableEq, Repr

/-- Why a drain has stopped. -/
inductive DrainStatus where
  /-- The next command is due later. -/
  | pending
  /-- A command has ended the reel. -/
  | ended
  /-- There are no more commands. -/
  | exhausted
  deriving DecidableEq, Repr

/-- What a drain has done. -/
structure DrainReport where
  dispatched : List Dispatched
  status : DrainStatus
  deriving DecidableEq, Repr

def DrainReport.failures (r : DrainReport) : Nat := r.dispatched.countP (!·.succeeded)

/-- A command that was handed to its handler, and what came of it. -/
structure Attempt where
  command : Command
  result : Except CommandError Verdict

namespace Attempt

def record (a : Attempt) : Dispatched := ⟨a.command.due, a.command.keyword, a.result.isOk⟩

/-- The command has ended the reel. -/
def endsReel (a : Attempt) : Bool := a.result matches .ok .endOfReel

end Attempt

/-- The course of a drain: what came of the commands, in order, and why it has stopped. -/
structure Course where
  attempts : List Attempt
  stop : Except ScriptError DrainStatus

/-- What a drain reports of its course. An error takes the place of the records. -/
def Course.report (c : Course) : Except ScriptError DrainReport :=
  c.stop.map fun status => ⟨c.attempts.map Attempt.record, status⟩

namespace Scheduler

variable {π σ : Type}

/-- What the clock shows when its source reads `reading`. -/
def now (s : Scheduler π σ) (reading : Int64) : Int := (s.clock.elapsed reading).toInt

def hasScript (s : Scheduler π σ) : Bool := s.reader.isSome

/-- Opens a script and resets the clock. Which backend there is does not matter yet. -/
def load {τ : Type} (source : Script.Source) (s : Scheduler π σ) (w : World τ) :
    Except ScriptError Unit × Scheduler π σ × World τ :=
  match source.reader w.disk with
  | .error e => (.error e, s, w)
  | .ok reader =>
    (.ok (), { s with
      clock := .new
      source := some source
      reader := some reader
      assets := ⟨source.baseDir⟩
      ended := false }, w.note .scriptLoaded)

/-- Opens the script again. Parts stop and effects go, so that a drain does everything anew; the
clock is left alone. -/
def restart (reading : Int64) (s : Scheduler π σ) (w : World σ) :
    Except ScriptError Unit × Scheduler π σ × World σ :=
  match s.source with
  | none => (.ok (), s, w)
  | some source =>
    match source.reader w.disk with
    | .error e => (.error e, s, w)
    | .ok reader =>
      (.ok (), { s with
        registry := s.registry.stopAll
        timeline := s.timeline.clear
        reader := some reader
        ended := false }, w.note (.scriptRestarted (s.now reading)))

def seekForward (ms : Int64) (s : Scheduler π σ) : Scheduler π σ :=
  { s with clock := s.clock.seekForward ms }

/-- Moves the clock back and restarts the script. The clock stays moved even if the restart
fails. -/
def seekBack (ms reading : Int64) (s : Scheduler π σ) (w : World σ) :
    Except ScriptError Unit × Scheduler π σ × World σ :=
  { s with clock := s.clock.seekBack ms }.restart reading w

/-- What commands act on. -/
def stage (s : Scheduler π σ) (w : World σ) : Stage π σ := ⟨s.registry, s.timeline, w⟩

/-- What there is to report about a command that was carried out at a time. -/
def verdictEvent (time : Int) (c : Command) : Except CommandError Verdict → Event
  | .ok .goOn => .dispatched time c
  | .ok .endOfReel => .endReached time c.line
  | .error why => .commandFailed c why

/-- Carries out the commands of a reader that are due, up to one that ends the reel. Their attempts
go behind those in `done`. -/
def courseFrom (s : Scheduler π σ) (reader : Script.Reader) (time : Int) (done : Array Attempt)
    (w : World σ) : Course × Scheduler π σ × World σ :=
  match h : reader.next time w.journal with
  | (.error e, reader', journal) =>
    (⟨done.toList, .error e⟩, { s with reader := some reader' }, { w with journal })
  | (.ok .notYet, reader', journal) =>
    (⟨done.toList, .ok .pending⟩, { s with reader := some reader' }, { w with journal })
  | (.ok .endOfScript, reader', journal) =>
    (⟨done.toList, .ok .exhausted⟩, { s with reader := some reader' }, { w with journal })
  | (.ok (.command c), reader', journal) =>
    let (result, stage) := s.table.dispatch c s.assets time (s.stage { w with journal })
    let s := { s with
      registry := stage.registry, timeline := stage.timeline, reader := some reader' }
    let w := stage.world.note (verdictEvent time c result)
    let attempt : Attempt := ⟨c, result⟩
    if attempt.endsReel then
      (⟨(done.push attempt).toList, .ok .ended⟩, { s with ended := true }, w)
    else
      have := Script.Reader.remaining_lt_of_next h
      courseFrom s reader' time (done.push attempt) w
termination_by reader.remaining

/-- Carries out the commands that are due. Nothing happens after the end of the reel. -/
def course (time : Int) (s : Scheduler π σ) (w : World σ) :
    Course × Scheduler π σ × World σ :=
  if s.ended then (⟨[], .ok .ended⟩, s, w)
  else match s.reader with
    | none => (⟨[], .ok .exhausted⟩, s, w)
    | some reader => courseFrom s reader time #[] w

/-- Carries out the commands that are due and reports what came of them. -/
def drain (time : Int) (s : Scheduler π σ) (w : World σ) :
    Except ScriptError DrainReport × Scheduler π σ × World σ :=
  let (course, s, w) := s.course time w
  (course.report, s, w)

/-- Draws the running parts, and tells how many there were. -/
def renderParts [Graphics σ] [Part π σ] (time : Int) (s : Scheduler π σ) (w : World σ) :
    Nat × Scheduler π σ × World σ :=
  let (count, registry, w) := s.registry.render time w
  (count, { s with registry }, w)

/-- Draws the effects that show, and tells how many there were. -/
def applyEffects [Graphics σ] (time : Int) (s : Scheduler π σ) (w : World σ) :
    Nat × Scheduler π σ × World σ :=
  let (count, timeline, w) := s.timeline.apply time w
  (count, { s with timeline }, w)

/-- Carries out a request of the viewer; to quit is none of the scheduler's business. -/
def obey (reading : Int64) (c : Control) (s : Scheduler π σ) (w : World σ) :
    Except ScriptError Unit × Scheduler π σ × World σ :=
  match c with
  | .togglePause => (.ok (), { s with clock := s.clock.toggle reading }, w)
  | .seekForward ms => (.ok (), s.seekForward ms, w)
  | .seekBack ms => s.seekBack ms reading w
  | .quit => (.ok (), s, w)

/-- Carries out a request of the viewer, and reports what came of it. -/
def attend (reading : Int64) (c : Control) (s : Scheduler π σ) (w : World σ) :
    Scheduler π σ × World σ :=
  match s.obey reading c w with
  | (.ok (), s, w) => (s, w.note (.controlApplied c (s.now reading)))
  | (.error e, s, w) => (s, w.note (.controlFailed c e))

end Scheduler

end DemoReel
