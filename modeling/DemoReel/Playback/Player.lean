import DemoReel.Playback.Scheduler

/-!
# The player

Renders frame after frame. Live frames show the time of the clock; captured frames show a time that
follows from their number alone, and each is written to a file of its own.
-/

namespace DemoReel

open Number

/-- How frames are timed and where they go. -/
inductive PlayMode where
  | live (fps : Float32)
  /-- Frames are written into a directory. -/
  | capture (dir : Path) (fps : Float32)
  deriving DecidableEq, Repr

def PlayMode.fps : PlayMode → Float32
  | .live fps => fps
  | .capture _ fps => fps

/-- The time of a captured frame, in whole milliseconds. -/
def frameTime (index : Nat) (fps : Float32) : Int :=
  floorInt64 (binary64OfInt index * 1000 / widen fps)

/-- The file of a captured frame. -/
def frameFileName (index : Nat) : String :=
  "frame_" ++ String.ofList (paddedDigits 5 index) ++ ".png"

/-- The time that a frame shows: that of the clock, or the one that its number gives it. -/
def PlayMode.timeOf (index : Nat) (now : Int) : PlayMode → Int
  | .live _ => now
  | .capture _ fps => frameTime index fps

/-- Frames can be paced at this rate: it is a positive number, and a frame does not last longer than
a 64-bit count of seconds can tell. -/
def isFrameRate (fps : Float32) : Bool :=
  fps.isFinite && 0 < fps && 1 / fps < Float32.ofBits 0x5F800000

/-- The player's own state. -/
structure Player where
  mode : PlayMode
  frameIndex : Nat := 0
  lastTime : Int := 0
  maxFrames : Option Nat := none
  deriving DecidableEq, Repr

/-- The frame limit is reached. -/
def Player.isDone (p : Player) : Bool := p.maxFrames.any (· ≤ p.frameIndex)

/-- What comes from outside at a frame. -/
structure Cue where
  /-- What the source of the clock reads. -/
  reading : Int64
  /-- What the viewer asks for ahead of the frame, each time with the reading of the source. -/
  requests : List (Int64 × Control) := []
  /-- Whether somebody has asked to stop by the end of the frame. -/
  stop : Bool := false
  deriving DecidableEq, Repr

/-- The viewer has asked to stop, or somebody else has. -/
def Cue.stops (c : Cue) : Bool := c.stop || c.requests.any (·.2 = .quit)

/-- What comes from outside during a run. -/
structure Cues where
  /-- Before the clock goes. -/
  opening : Cue
  /-- At frame number `n` of the run. -/
  frame : Nat → Cue
  /-- Before the clock stops. -/
  closing : Cue

/-- The source of the clock stands still, and nobody asks for anything. -/
def Cues.still (reading : Int64) : Cues := ⟨{ reading }, fun _ => { reading }, { reading }⟩

/-- What is left of a cue if nobody listens to what is asked for. -/
def Cue.unheard (c : Cue) : Cue := { reading := c.reading }

def Cues.unheard (c : Cues) : Cues :=
  ⟨c.opening.unheard, fun n => (c.frame n).unheard, c.closing.unheard⟩

/-- What a frame says about the script. -/
inductive FrameStatus where
  | goOn
  | finished
  | exhausted
  deriving DecidableEq, Repr

def FrameStatus.ofDrain : DrainStatus → FrameStatus
  | .pending => .goOn
  | .ended => .finished
  | .exhausted => .exhausted

/-- What a run has done. -/
structure RunSummary where
  frames : Nat
  lastTime : Int
  /-- Whether the script has ended the reel. -/
  ended : Bool
  deriving DecidableEq, Repr

/-- The directory that could not be opened, by its absolute path if that is known. -/
def RunError.directory? : RunError → Option Path
  | .captureDir path _ => some path
  | _ => none

/-- A player with what it plays and what it plays on. -/
structure Playback (π σ : Type) where
  player : Player
  scheduler : Scheduler π σ
  world : World σ

namespace Playback

variable {π σ : Type} [Graphics σ] [Part π σ]

/-- Draws the picture of a time: the background, the running parts, the effects. -/
def compose (time : Int) (commands : Nat) (p : Playback π σ) : Playback π σ :=
  let world := ((p.world.after (.bind .framebuffer)).after .clear).after .clearDepth
  let (parts, scheduler, world) := p.scheduler.renderParts time world
  let (effects, scheduler, world) := scheduler.applyEffects time world
  { player := { p.player with lastTime := time }
    scheduler
    world := world.note (.frameRendered p.player.frameIndex time commands parts effects) }

/-- Writes the picture to its file, if frames are captured. -/
def save (p : Playback π σ) : Except GraphicsError Unit × Playback π σ :=
  match p.player.mode with
  | .live _ => (.ok (), p)
  | .capture dir _ =>
    let (reply, world) := p.world.call (.capture (dir.join ⟨frameFileName p.player.frameIndex⟩))
    (reply, { p with world })

/-- Shows the picture and saves it. The frame counts when both have been done. -/
def deliver (status : DrainStatus) (p : Playback π σ) :
    Except RunError FrameStatus × Playback π σ :=
  let (reply, world) := p.world.call .present
  match reply with
  | .error e => (.error (.graphics e), { p with world })
  | .ok () =>
    match save { p with world } with
    | (.error e, p) => (.error (.graphics e), p)
    | (.ok (), p) =>
      (.ok (.ofDrain status),
        { p with player := { p.player with frameIndex := p.player.frameIndex + 1 } })

/-- Renders one frame. -/
def step (reading : Int64) (p : Playback π σ) : Except RunError FrameStatus × Playback π σ :=
  let time := p.player.mode.timeOf p.player.frameIndex (p.scheduler.now reading)
  match p.scheduler.drain time p.world with
  | (.error e, scheduler, world) => (.error (.script e), { p with scheduler, world })
  | (.ok report, scheduler, world) =>
    (compose time report.dispatched.length { p with scheduler, world }).deliver report.status

/-- Reports an event. -/
def note (p : Playback π σ) (e : Event) : Playback π σ := { p with world := p.world.note e }

def summary (ended : Bool) (p : Playback π σ) : RunSummary :=
  ⟨p.player.frameIndex, p.player.lastTime, ended⟩

/-- Obeys a request of the viewer. To quit is no matter of the scheduler. -/
def attend (request : Int64 × Control) (p : Playback π σ) : Playback π σ :=
  match request with
  | (_, .quit) => p
  | (reading, c) =>
    let (scheduler, world) := p.scheduler.attend reading c p.world
    { p with scheduler, world }

/-- Obeys what the viewer has asked for. -/
def heed (c : Cue) (p : Playback π σ) : Playback π σ :=
  c.requests.foldl (fun p request => p.attend request) p

/-- Renders one frame of a run: obeys the viewer first. -/
def frame (c : Cue) (p : Playback π σ) : Except RunError FrameStatus × Playback π σ :=
  (p.heed c).step c.reading

/-- What ends a run after a frame, if anything does, with what there is to report. -/
def verdict (stop : Bool) (p : Playback π σ) :
    Except RunError FrameStatus → Option (Except RunError RunSummary × List Event)
  | .error e => some (.error e, [])
  | .ok .finished => some (.ok (p.summary true), [])
  | .ok .exhausted =>
    some (.error (.exhausted p.player.frameIndex), [.scriptExhausted p.player.frameIndex])
  | .ok .goOn =>
    if stop || p.player.isDone then
      some (.ok (p.summary false), [.playbackStopped p.player.frameIndex])
    else none

/-- Renders one frame of a run, and tells how it ends the run if it does. -/
def turn (c : Cue) (p : Playback π σ) : Option (Except RunError RunSummary) × Playback π σ :=
  let (result, p) := p.frame c
  match p.verdict c.stops result with
  | some (outcome, events) => (some outcome, { p with world := p.world.noteAll events })
  | none => (none, p)

/-- Renders frames until something ends the run; `none` if that takes more frames than `fuel`. -/
def runFrames (fuel : Nat) (cues : Nat → Cue) (p : Playback π σ) :
    Option (Except RunError RunSummary) × Playback π σ :=
  match fuel with
  | 0 => (none, p)
  | fuel + 1 =>
    match p.turn (cues 0) with
    | (some outcome, p) => (some outcome, p)
    | (none, p) => runFrames fuel (fun n => cues (n + 1)) p

/-- Obeys the viewer and lets the clock go. -/
def startClock (c : Cue) (p : Playback π σ) : Playback π σ :=
  let p := p.heed c
  { p with scheduler := { p.scheduler with clock := p.scheduler.clock.start c.reading } }

/-- Obeys the viewer and stops the clock. -/
def stopClock (c : Cue) (p : Playback π σ) : Playback π σ :=
  let p := p.heed c
  { p with scheduler := { p.scheduler with clock := p.scheduler.clock.stop c.reading } }

/-- Runs live: the clock goes while frames are rendered. -/
def runLive (fuel : Nat) (cues : Cues) (p : Playback π σ) :
    Option (Except RunError RunSummary) × Playback π σ :=
  let (outcome, p) := (p.startClock cues.opening).runFrames fuel cues.frame
  (outcome, p.stopClock cues.closing)

/-- The directory for frames, made if it is missing, as an absolute path; and the disk with it as
the working directory. -/
def openCaptureDir (dir : Path) (d : Disk) : Except RunError Path × Disk :=
  match d.makeDirs dir with
  | (.error why, d) => (.error (.captureDir dir why), d)
  | (.ok (), d) =>
    match d.canonicalize dir with
    | .error why => (.error (.captureDir dir why), d)
    | .ok out =>
      match d.enter out with
      | .error why => (.error (.captureDir out why), d)
      | .ok d => (.ok out, d)

/-- Goes back to a working directory. -/
def leaveCaptureDir (previous : Location) (p : Playback π σ) : Playback π σ :=
  let dir := Path.ofLocation previous
  match p.world.disk.enter dir with
  | .ok disk => { p with world := { p.world with disk } }
  | .error why => p.note (.workingDirLost dir why)

/-- Captures frames: the working directory is that of the frames in the meantime. -/
def runCapture (fuel : Nat) (cues : Cues) (dir : Path) (fps : Float32) (p : Playback π σ) :
    Option (Except RunError RunSummary) × Playback π σ :=
  let previous := p.world.disk.workingDir
  match openCaptureDir dir p.world.disk with
  | (.error e, disk) =>
    -- A directory that was found stays the one for the frames, even if it cannot be entered.
    let mode := .capture (e.directory?.getD dir) fps
    (some (.error e), { p with player := { p.player with mode }, world := { p.world with disk } })
  | (.ok out, disk) =>
    let p : Playback π σ :=
      { p with
        player := { p.player with mode := .capture out fps }
        world := { p.world with disk } }
    let (outcome, p) := (p.note (.capturing out)).runFrames fuel cues.frame
    (outcome, p.leaveCaptureDir previous)

/-- Runs until the script or the limit ends it; `none` if that takes more frames than `fuel`. A rate
that frames cannot be paced at is refused before anything happens. -/
def run (fuel : Nat) (cues : Cues) (p : Playback π σ) :
    Option (Except RunError RunSummary) × Playback π σ :=
  if isFrameRate p.player.mode.fps then
    match p.player.mode with
    | .live _ => p.runLive fuel cues
    | .capture dir fps => p.runCapture fuel cues dir fps
  else (some (.error (.frameRate p.player.mode.fps)), p)

end Playback

end DemoReel
