import DemoReel.Proofs.Playback.Live
import DemoReel.Proofs.Playback.Reopening

/-!
# Captured frames do not look at the clock

The time of a captured frame follows from its number. Main statement: two playbacks that differ in
their clocks capture the same frames, whatever happens to each clock and its source between them
(`shots_eq_shots`).
-/

namespace DemoReel

variable {π σ μ : Type}

/-! ## A frame with another clock -/

theorem Scheduler.drain_with_clock (s : Scheduler π σ) (time : Int) (w : World σ)
    (clock : Clock Int64) :
    { s with clock }.drain time w =
      ((s.drain time w).1, { (s.drain time w).2.1 with clock }, (s.drain time w).2.2) := by
  simp only [drain, course_with_clock]

namespace Playback

/-- The playback with another clock. -/
def withClock (clock : Clock Int64) (p : Playback π σ) : Playback π σ :=
  { p with scheduler := { p.scheduler with clock } }

theorem timeAt_of_capture {p : Playback π σ} {dir : Path} {fps : Float32}
    (h : p.player.mode = .capture dir fps) (reading : Int64) :
    p.timeAt reading = frameTime p.player.frameIndex fps := by
  rw [timeAt, h]
  rfl

section

variable [Graphics σ]

theorem save_withClock (p : Playback π σ) (clock : Clock Int64) :
    (p.withClock clock).save = (p.save.1, p.save.2.withClock clock) := by
  unfold save withClock
  cases p.player.mode <;> rfl

theorem deliver_withClock (status : DrainStatus) (p : Playback π σ) (clock : Clock Int64) :
    (p.withClock clock).deliver status =
      ((p.deliver status).1, (p.deliver status).2.withClock clock) := by
  have hpresent : (p.withClock clock).world.call .present = p.world.call .present := rfl
  unfold deliver
  rw [hpresent]
  cases p.world.call .present with
  | mk reply world =>
    cases reply with
    | error e => rfl
    | ok _ =>
      have hsave := save_withClock { p with world } clock
      simp only [withClock] at hsave ⊢
      rw [hsave]
      cases save { p with world } with
      | mk saved q => cases saved <;> rfl

variable [Part π σ]

theorem mode_step (reading : Int64) (p : Playback π σ) :
    (p.step reading).2.player.mode = p.player.mode := by
  rcases hdrain : p.scheduler.drain (p.timeAt reading) p.world with ⟨result, s, w⟩
  cases result with
  | ok report =>
    obtain ⟨frameIndex, lastTime, timeline, world, hstep⟩ := exists_step hdrain
    rw [hstep]
  | error e => rw [step_of_drain_error hdrain]

/-- A captured frame leaves the clock alone, and nothing else about it depends on the clock or on
what its source reads. -/
theorem step_withClock {p : Playback π σ} {dir : Path} {fps : Float32}
    (h : p.player.mode = .capture dir fps) (clock : Clock Int64) (reading reading' : Int64) :
    (p.withClock clock).step reading =
      ((p.step reading').1, (p.step reading').2.withClock clock) := by
  have htime : (p.withClock clock).timeAt reading = p.timeAt reading' := by
    rw [timeAt_of_capture h reading']
    exact timeAt_of_capture (p := p.withClock clock) h reading
  rcases hdrain : p.scheduler.drain (p.timeAt reading') p.world with ⟨result, s, w⟩
  have hdrain' : (p.withClock clock).scheduler.drain ((p.withClock clock).timeAt reading)
      (p.withClock clock).world = (result, { s with clock }, w) := by
    have hclock := p.scheduler.drain_with_clock (p.timeAt reading') p.world clock
    rw [hdrain] at hclock
    rw [htime]
    exact hclock
  cases result with
  | error e =>
    rw [step_of_drain_error hdrain, step_of_drain_error hdrain']
    rfl
  | ok report =>
    rw [step_of_drain hdrain, step_of_drain hdrain', htime]
    exact deliver_withClock report.status (compose (p.timeAt reading') report.dispatched.length
      { p with scheduler := s, world := w }) clock

end

end Playback

/-! ## Moments between the frames -/

/-- What happens to a clock while frames are captured. -/
inductive ClockMove where
  /-- The source of the clock moves, forwards or backwards. -/
  | tick (ms : Int64)
  | togglePause
  | seekForward (ms : Int64)
  deriving DecidableEq, Repr

/-- What happens while frames are captured. -/
inductive CaptureMove where
  | clock (m : ClockMove)
  | frame
  deriving DecidableEq, Repr

/-- How many frames are asked for. -/
def CaptureMove.frames (moves : List CaptureMove) : Nat := moves.countP (· matches .frame)

/-- What can be told of a frame when it is over. -/
structure Shot (π μ : Type) where
  result : Except RunError FrameStatus
  /-- All that has been asked of the backend, the frames before included. -/
  entries : List (Call ⊕ μ)
  registry : Registry π
  timeline : Timeline
  lastTime : Int
  frameIndex : Nat

/-- What can be told of a frame that has given this result and left this playback. -/
def Shot.of (x : Except RunError FrameStatus × Playback π (Recorder μ σ)) : Shot π μ :=
  ⟨x.1, x.2.world.entries, x.2.scheduler.registry, x.2.scheduler.timeline, x.2.player.lastTime,
    x.2.player.frameIndex⟩

namespace Live

def moveClock (l : Live π σ) : ClockMove → Live π σ
  | .tick ms => { l with reading := l.reading + ms }
  | .togglePause => l.obey .togglePause
  | .seekForward ms => l.obey (.seekForward ms)

theorem exists_moveClock (reading : Int64) (p : Playback π σ) (clock : Clock Int64)
    (m : ClockMove) :
    ∃ reading' clock', (⟨reading, p.withClock clock⟩ : Live π σ).moveClock m =
      ⟨reading', p.withClock clock'⟩ := by
  cases m with
  | tick ms => exact ⟨reading + ms, clock, rfl⟩
  | togglePause => exact ⟨reading, clock.toggle reading, rfl⟩
  | seekForward ms => exact ⟨reading, clock.seekForward ms, rfl⟩

variable [Graphics σ] [Part π (Recorder μ σ)]

/-- The frames that are captured. -/
def shots (l : Live π (Recorder μ σ)) : List CaptureMove → List (Shot π μ)
  | [] => []
  | .clock m :: moves => shots (l.moveClock m) moves
  | .frame :: moves =>
    let frame := l.playback.step l.reading
    Shot.of frame :: shots { l with playback := frame.2 } moves

/-- The frames are those that would have been captured had nothing happened to the clock. -/
theorem shots_eq_map_frameAt {p : Playback π (Recorder μ σ)} {dir : Path} {fps : Float32}
    (h : p.player.mode = .capture dir fps) (clock : Clock Int64) (reading : Int64)
    (moves : List CaptureMove) :
    shots ⟨reading, p.withClock clock⟩ moves =
      (List.range (CaptureMove.frames moves)).map fun i =>
        .of (p.frameAt (Playback.quiet fun _ => 0) i) := by
  -- A move changes the clock and its source only, a frame everything else only.
  induction moves generalizing p clock reading with
  | nil => rfl
  | cons m moves ih =>
    cases m with
    | clock m =>
      obtain ⟨reading', clock', hmove⟩ := exists_moveClock reading p clock m
      show shots ((⟨reading, p.withClock clock⟩ : Live π (Recorder μ σ)).moveClock m) moves = _
      rw [hmove]
      exact ih h clock' reading'
    | frame =>
      have hframe := Playback.step_withClock h clock reading 0
      have hmode : (p.step 0).2.player.mode = .capture dir fps := (p.mode_step 0).trans h
      have hframes : CaptureMove.frames (.frame :: moves) = CaptureMove.frames moves + 1 :=
        List.countP_cons_of_pos rfl
      rw [hframes, List.range_succ_eq_map, List.map_cons, List.map_map]
      simp only [shots, hframe]
      rw [ih hmode clock reading]
      rfl

/-- Two playbacks that differ in their clocks at most capture the same frames, whatever happens to
each clock and its source before, between and behind them. -/
theorem shots_eq_shots {p : Playback π (Recorder μ σ)} {dir : Path} {fps : Float32}
    (h : p.player.mode = .capture dir fps) (clock clock' : Clock Int64) (reading reading' : Int64)
    {moves moves' : List CaptureMove}
    (hframes : CaptureMove.frames moves = CaptureMove.frames moves') :
    shots ⟨reading, p.withClock clock⟩ moves = shots ⟨reading', p.withClock clock'⟩ moves' := by
  rw [shots_eq_map_frameAt h, shots_eq_map_frameAt h, hframes]

/-- A part that starts with the second frame, on a clock that stands still and on one that a viewer
lets go and moves while its source goes back. -/
theorem shots_eq_shots_scrubbed :
    let part : Enrolled Scene := ⟨.pulse .white 30, {}, .idle⟩
    let s : Scheduler Scene (Recorder Empty Rehearsal) :=
      { table := .standard, registry := ⟨NameMap.empty.insert "a" part⟩ }
    let loaded := (s.load (.text "40 START_PART a\n50 END\n") ⟨{ inner := {} }, {}, #[]⟩).2
    let p : Playback Scene (Recorder Empty Rehearsal) :=
      ⟨{ mode := .capture ⟨"frames"⟩ 25 }, loaded.1, loaded.2⟩
    let scrubbed : List CaptureMove := [.clock .togglePause, .frame, .clock (.tick (-900)),
      .clock (.seekForward 5000), .frame, .clock .togglePause, .frame]
    let still : List CaptureMove := [.frame, .frame, .frame]
    p.player.mode = .capture ⟨"frames"⟩ 25 ∧
      CaptureMove.frames scrubbed = CaptureMove.frames still ∧
      (shots ⟨0, p.withClock .new⟩ still).map (·.result) =
        [.ok .goOn, .ok .goOn, .ok .finished] ∧
      shots ⟨700, p.withClock (.running 300)⟩ scrubbed = shots ⟨0, p.withClock .new⟩ still := by
  intro part s loaded p scrubbed still
  have hmode : p.player.mode = .capture ⟨"frames"⟩ 25 := rfl
  have hframes : CaptureMove.frames scrubbed = CaptureMove.frames still := by decide
  exact ⟨hmode, hframes, by decide +kernel, shots_eq_shots hmode (.running 300) .new 700 0 hframes⟩

end Live

end DemoReel
