import DemoReel.Proofs.Disk.Stays
import DemoReel.Proofs.Playback.Outcome

/-!
# How runs end

A run is refused for its rate, or finds no directory for its frames, or renders frames until one of
them ends it, by an error or not. Main statement: whichever it is, the run cleans up behind itself.
A live clock stands still, the working directory is the one from before, and what is refused has
changed nothing (`run_cleansUp`).
-/

namespace DemoReel

variable {π σ : Type}

@[simp] theorem Clock.isRunning_stop (now : Int64) (c : Clock Int64) :
    (c.stop now).isRunning = false := by
  cases c <;> rfl

/-- What the requests of frames make of the clock. -/
def Clock.asked (cues : List Cue) (clock : Clock Int64) : Clock Int64 :=
  (cues.flatMap Cue.requests).foldl (fun clock request => request.2.onClock request.1 clock) clock

namespace Playback

theorem clock_heed (c : Cue) (p : Playback π σ) :
    (p.heed c).scheduler.clock = p.scheduler.clock.asked [c] := by
  simp only [heed, Clock.asked, List.flatMap_singleton]
  induction c.requests generalizing p with
  | nil => rfl
  | cons request requests ih => rw [List.foldl_cons, List.foldl_cons, ih, clock_attend]

@[simp] theorem player_leaveCaptureDir (previous : Location) (p : Playback π σ) :
    (p.leaveCaptureDir previous).player = p.player := by
  obtain ⟨disk, journal, h⟩ := p.exists_leaveCaptureDir previous
  rw [h]

@[simp] theorem scheduler_leaveCaptureDir (previous : Location) (p : Playback π σ) :
    (p.leaveCaptureDir previous).scheduler = p.scheduler := by
  obtain ⟨disk, journal, h⟩ := p.exists_leaveCaptureDir previous
  rw [h]

/-- Whoever goes back is there, or says why not. -/
theorem leaveCaptureDir_cases {previous : Location} (h : ∀ n ∈ previous, Path.IsName n)
    (p : Playback π σ) :
    (p.leaveCaptureDir previous).world.disk.workingDir = previous ∨
      ∃ why, p.world.disk.enter (.ofLocation previous) = .error why ∧
        p.leaveCaptureDir previous = p.note (.workingDirLost (.ofLocation previous) why) := by
  unfold leaveCaptureDir
  dsimp only
  split
  · next disk henter =>
    left
    rw [Disk.eq_of_enter_ofLocation h henter]
    rfl
  · next why henter => exact .inr ⟨why, henter, rfl⟩

section

variable [Graphics σ] [Part π σ]

/-! ## What frames leave alone -/

/-- What a frame with this result makes of playback `p`, beside what it draws: it is counted if it
could be shown, and the clock is left to whoever started it. -/
structure Stepped (p : Playback π σ) (result : Except RunError FrameStatus) (q : Playback π σ) :
    Prop where
  player : ∃ lastTime, q.player =
    { p.player with frameIndex := p.player.frameIndex + counted result, lastTime }
  clock : q.scheduler.clock = p.scheduler.clock
  /-- That nothing is left to play is no error of a frame. -/
  error : ∀ e, result = .error e → framesOf (.error e) = none

theorem stepped_step (reading : Int64) (p : Playback π σ) :
    Stepped p (p.step reading).1 (p.step reading).2 := by
  have hclock := (p.scheduler.sameSetting_drain (p.timeAt reading) p.world).clock
  rcases hdrain : p.scheduler.drain (p.timeAt reading) p.world with ⟨result, s, w⟩
  rw [hdrain] at hclock
  cases result with
  | error e =>
    rw [step_of_drain_error hdrain]
    exact ⟨⟨p.player.lastTime, rfl⟩, hclock, fun _ h => by cases h; rfl⟩
  | ok report =>
    rw [step_of_drain hdrain]
    rcases deliver_cases report.status (compose (p.timeAt reading) report.dispatched.length
      { p with scheduler := s, world := w }) with ⟨-, world, hdeliver⟩ | ⟨e, world, hdeliver⟩
    · rw [hdeliver]
      exact ⟨⟨p.timeAt reading, rfl⟩, hclock, fun _ h => by cases h⟩
    · rw [hdeliver]
      exact ⟨⟨p.timeAt reading, rfl⟩, hclock, fun _ h => by cases h; rfl⟩

theorem stepped_frame (c : Cue) (p : Playback π σ) :
    Stepped (p.heed c) (p.frame c).1 (p.frame c).2 := (p.heed c).stepped_step c.reading

/-- Frames leave the clock as the viewer has left it. -/
theorem exists_clock_runFrames (fuel : Nat) (cues : Nat → Cue) (p : Playback π σ) :
    ∃ n, (p.runFrames fuel cues).2.scheduler.clock =
      p.scheduler.clock.asked ((List.range n).map cues) := by
  induction fuel generalizing cues p with
  | zero => exact ⟨0, rfl⟩
  | succ fuel ih =>
    have hframe := (p.stepped_frame (cues 0)).clock
    rw [clock_heed] at hframe
    simp only [runFrames, turn]
    cases (p.frame (cues 0)).2.verdict (cues 0).stops (p.frame (cues 0)).1 with
    | some ended => exact ⟨1, hframe⟩
    | none =>
      obtain ⟨n, hlater⟩ := ih (fun n => cues (n + 1)) (p.frame (cues 0)).2
      refine ⟨n + 1, hlater.trans ?_⟩
      rw [hframe, List.range_succ_eq_map, List.map_cons, List.map_map]
      simp [Clock.asked, Function.comp_def]

/-! ## Every way through a run -/

/-- The ways that a run of `p` can go, each with what comes of it. -/
inductive Way (fuel : Nat) (cues : Cues) (p : Playback π σ)
    (ran : Option (Except RunError RunSummary) × Playback π σ) : Prop where
  /-- Frames cannot be paced at the rate. -/
  | refused (rate : isFrameRate p.player.mode.fps = false)
      (result : ran = (some (.error (.frameRate p.player.mode.fps)), p))
  /-- There is no directory for the frames, and only directories may have been made. -/
  | unopened {dir : Path} {fps : Float32} {path : Path} {why : Fault} {made : Disk}
      (mode : p.player.mode = .capture dir fps) (rate : isFrameRate fps = true)
      (opened : openCaptureDir dir p.world.disk = (.error (.captureDir path why), made))
      (stays : p.world.disk.Stays made)
      (result : ran = (some (.error (.captureDir path why)), { p with
        player := { p.player with mode := .capture path fps }
        world := { p.world with disk := made } }))
  /-- Frames are shown while the clock goes. -/
  | live {fps : Float32} (mode : p.player.mode = .live fps) (rate : isFrameRate fps = true)
      (result : ran = p.runLive fuel cues)
  /-- Frames are captured into a directory, which is left behind them. -/
  | captured {dir : Path} {fps : Float32} {out : Path} {disk : Disk}
      (mode : p.player.mode = .capture dir fps) (rate : isFrameRate fps = true)
      (opened : openCaptureDir dir p.world.disk = (.ok out, disk))
      (result : ran = (((p.capturing out disk).runFrames fuel cues.frame).1,
        ((p.capturing out disk).runFrames fuel cues.frame).2.leaveCaptureDir
          p.world.disk.workingDir))

theorem way_run (fuel : Nat) (cues : Cues) (p : Playback π σ) :
    Way fuel cues p (p.run fuel cues) := by
  cases hrate : isFrameRate p.player.mode.fps with
  | false => exact .refused hrate (by simp [run, hrate])
  | true =>
    cases hmode : p.player.mode with
    | live fps =>
      rw [hmode] at hrate
      exact .live hmode hrate (by simp [run, hmode, hrate])
    | capture dir fps =>
      rw [hmode] at hrate
      obtain ⟨made, hstays, ⟨path, why, hopen⟩ | ⟨out, l, hopen⟩⟩ :=
        openCaptureDir_cases dir p.world.disk
      · refine .unopened hmode hrate hopen hstays ?_
        simp [run, runCapture, hmode, hrate, hopen, RunError.directory?]
      · exact .captured hmode hrate hopen (run_of_capture hmode hrate hopen fuel cues)

/-! ## Cleaning up -/

/-- What a run of `p` has to leave in order, whatever has ended it. -/
structure CleansUp (cues : Cues) (p : Playback π σ) (outcome : Option (Except RunError RunSummary))
    (q : Playback π σ) : Prop where
  /-- A rate that is refused is refused before anything has happened. -/
  refused : isFrameRate p.player.mode.fps = false →
    outcome = some (.error (.frameRate p.player.mode.fps)) ∧ q = p
  /-- When frames have been shown, the clock stands still. -/
  stopped : ∀ fps, p.player.mode = .live fps → isFrameRate fps = true →
    q.scheduler.clock.isRunning = false
  /-- Captured frames have nothing to do with the clock: nobody starts, stops or moves it but the
  viewer. -/
  clock : ∀ dir fps, p.player.mode = .capture dir fps → ∃ n,
    q.scheduler.clock = p.scheduler.clock.asked ((List.range n).map cues.frame)
  /-- Only a directory that cannot be entered any more is not gone back to; then this is the last
  thing that is reported. -/
  workingDir : ∀ dir fps, p.player.mode = .capture dir fps →
    q.world.disk.workingDir = p.world.disk.workingDir ∨
      ∃ why, q.world.disk.enter (.ofLocation p.world.disk.workingDir) = .error why ∧
        q.world.journal.back? =
          some (.workingDirLost (.ofLocation p.world.disk.workingDir) why)
  /-- Without a directory for the frames, none is rendered and no command carried out: nothing has
  changed but what was made of the directory and the path by which it is known. -/
  unopened : ∀ dir fps e made, p.player.mode = .capture dir fps → isFrameRate fps = true →
    openCaptureDir dir p.world.disk = (.error e, made) →
    outcome = some (.error e) ∧ ∃ out, q = { p with
      player := { p.player with mode := .capture out fps }
      world := { p.world with disk := made } }

/-- Every run cleans up, whatever the backend, the parts and the handlers of commands do and however
the run ends. All on the way to the working directory has a name that something can have, as it has
wherever a path was followed to (`Disk.isName_of_enter`). -/
theorem run_cleansUp (fuel : Nat) (cues : Cues) (p : Playback π σ)
    (hnames : ∀ n ∈ p.world.disk.workingDir, Path.IsName n) :
    CleansUp cues p (p.run fuel cues).1 (p.run fuel cues).2 := by
  cases p.way_run fuel cues with
  | refused rate result =>
    rw [result]
    exact {
      refused := fun _ => ⟨rfl, rfl⟩
      stopped := fun _ hmode hrate => by simp [hmode, PlayMode.fps, hrate] at rate
      clock := fun _ _ _ => ⟨0, rfl⟩
      workingDir := fun _ _ _ => .inl rfl
      unopened := fun _ _ _ _ hmode hrate _ => by simp [hmode, PlayMode.fps, hrate] at rate }
  | @unopened _ _ path _ _ mode rate opened stays result =>
    rw [result]
    refine {
      refused := fun hrate => by simp [mode, PlayMode.fps, rate] at hrate
      stopped := fun _ hmode => by simp [mode] at hmode
      clock := fun _ _ _ => ⟨0, rfl⟩
      workingDir := fun _ _ _ => .inl stays.workingDir
      unopened := fun _ _ _ _ hmode _ hopened => ?_ }
    rw [mode] at hmode
    cases hmode
    rw [opened] at hopened
    cases hopened
    exact ⟨rfl, path, rfl⟩
  | live mode rate result =>
    rw [result]
    exact {
      refused := fun hrate => by simp [mode, PlayMode.fps, rate] at hrate
      stopped := fun _ _ _ => Clock.isRunning_stop _ _
      clock := fun _ _ hmode => by simp [mode] at hmode
      workingDir := fun _ _ hmode => by simp [mode] at hmode
      unopened := fun _ _ _ _ hmode => by simp [mode] at hmode }
  | @captured _ _ out disk mode rate opened result =>
    rw [result]
    refine {
      refused := fun hrate => by simp [mode, PlayMode.fps, rate] at hrate
      stopped := fun _ hmode => by simp [mode] at hmode
      clock := fun _ _ _ => ?_
      workingDir := fun _ _ _ => ?_
      unopened := fun _ _ _ _ hmode _ hopened => ?_ }
    · rw [scheduler_leaveCaptureDir]
      exact exists_clock_runFrames fuel cues.frame (p.capturing out disk)
    · rcases leaveCaptureDir_cases hnames ((p.capturing out disk).runFrames fuel cues.frame).2 with
        hback | ⟨why, henter, hlost⟩
      · exact .inl hback
      · right
        rw [hlost]
        exact ⟨why, henter, Array.back?_push⟩
    · rw [mode] at hmode
      cases hmode
      rw [opened] at hopened
      cases hopened

end

/-- A screen that is lost while frames are captured from a directory of its own. -/
theorem run_cleansUp_lost_screen :
    let s : Scheduler Scene (Recorder Empty Rehearsal) := { table := .standard }
    let w : World (Recorder Empty Rehearsal) :=
      { gfx := { inner := {}, presentFault := some "lost" }
        disk := { entries := [(["work"], .directory)], workingDir := ["work"] } }
    let p := ofSession { mode := .capture ⟨"frames"⟩ 25 } (.opened "0 END\n" s w)
    let ran := p.run 3 (.still 0)
    (∀ n ∈ p.world.disk.workingDir, Path.IsName n) ∧
      ran.1 = some (.error (.graphics (.present "lost"))) ∧
      ran.2.world.gfx.entries.back? = some (.inl .present) ∧
      ran.2.world.disk.isDirectory ⟨"/work/frames"⟩ = true ∧
      ran.2.world.disk.workingDir = ["work"] ∧ CleansUp (.still 0) p ran.1 ran.2 := by
  intro s w p ran
  have hnames : ∀ n ∈ p.world.disk.workingDir, Path.IsName n := by decide
  exact ⟨hnames, by decide +kernel, by decide +kernel, by decide +kernel, by decide +kernel,
    run_cleansUp 3 (.still 0) p hnames⟩

end Playback

end DemoReel
