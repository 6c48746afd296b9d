import DemoReel.Part.Scene
import DemoReel.Proofs.Playback.Capture
import DemoReel.Proofs.Playback.Reach

/-!
# What a run of captured frames comes to

A run drains and draws frame after frame; where the commands alone decide which of them ends the
reel, what it comes to can be told by draining alone. Main statement: `run_captures`.
-/

namespace DemoReel.Playback

open Number

variable {π σ μ : Type} {Q : Call ⊕ μ → Prop}

/-- Statuses matter only up to the first one that is not `pending`. -/
theorem Outcome.congr {out : Path} {fps : Float32} {limit : Option Nat}
    {status status' : Nat → Option DrainStatus} {start : List (Call ⊕ μ)}
    {run : Nat → Option (Except RunError RunSummary) × Playback π (Recorder μ σ)}
    (h : Outcome Q out fps limit status start run)
    (heq : ∀ i, (∀ j < i, status j = some .pending) → status i = status' i) :
    Outcome Q out fps limit status' start run := by
  have hback : ∀ m, (∀ j < m, status' j = some .pending) → ∀ j < m, status j = some .pending := by
    intro m hopen j
    induction j using Nat.strongRecOn with
    | ind j ih =>
      intro hj
      rw [heq j fun k hk => ih k hk (Nat.lt_trans hk hj)]
      exact hopen j hj
  refine ⟨fun i hopen => ?_, fun m hopen hstatus => ?_, fun m hopen hstatus => ?_,
    fun L hL hopen => h.limited L hL (hback L hopen), fun hL hopen => ?_, h.files⟩
  · rw [← heq i (hback i hopen)]
    exact h.total i (hback i hopen)
  · rw [← heq m (hback m hopen)] at hstatus
    exact h.ended m (hback m hopen) hstatus
  · rw [← heq m (hback m hopen)] at hstatus
    exact h.exhausted m (hback m hopen) hstatus
  · exact h.endless hL fun j => hback (j + 1) (fun k _ => hopen k) j (Nat.lt_succ_self j)

/-- What becomes of the directory after the frames is of no interest. -/
theorem Outcome.of_run {out : Path} {fps : Float32} {limit : Option Nat}
    {status : Nat → Option DrainStatus} {start : List (Call ⊕ μ)}
    {run run' : Nat → Option (Except RunError RunSummary) × Playback π (Recorder μ σ)}
    (h : Outcome Q out fps limit status start run)
    (hrun : ∀ fuel, (run' fuel).1 = (run fuel).1 ∧
      (run' fuel).2.world.entries = (run fuel).2.world.entries) :
    Outcome Q out fps limit status start run' := by
  refine ⟨h.total, fun m hopen hstatus hL fuel hfuel => ?_, fun m hopen hstatus hL fuel hfuel => ?_,
    fun L hL hopen fuel hfuel => ?_, fun hL hopen fuel => ?_, fun fuel outcome p heq => ?_⟩
  · rw [(hrun fuel).1]
    exact h.ended m hopen hstatus hL fuel hfuel
  · rw [(hrun fuel).1]
    exact h.exhausted m hopen hstatus hL fuel hfuel
  · rw [(hrun fuel).1]
    exact h.limited L hL hopen fuel hfuel
  · rw [(hrun fuel).1]
    exact h.endless hL hopen fuel
  · obtain ⟨houtcome, hentries⟩ := hrun fuel
    rw [heq] at houtcome hentries
    have hframes : run fuel = (some outcome, (run fuel).2) := Prod.ext houtcome.symm rfl
    obtain ⟨n, l, hn, hl, hon⟩ := h.files fuel outcome _ hframes
    exact ⟨n, l, hn, hentries.trans hl, hon⟩

/-! ## Draining without drawing -/

variable [Graphics σ] [Part π (Recorder μ σ)]

section

variable {ends : Command → Bool} {p : Playback π (Recorder μ σ)} {ss : Session π (Recorder μ σ)}

/-- Playback and a session have come to the same place in a script, and in both the commands alone
decide which of them ends the reel. -/
structure Beats (ends : Command → Bool) (p : Playback π (Recorder μ σ))
    (ss : Session π (Recorder μ σ)) : Prop where
  place : Scheduler.SamePlace p.scheduler ss.scheduler
  table : p.scheduler.table.EndsBy ends
  table' : ss.scheduler.table.EndsBy ends

/-- Drawing a frame changes nothing about the place in the script. -/
theorem Beats.step (h : Beats ends p ss) (reading : Int64) :
    p.scheduler.drainStatus? (p.timeAt reading) p.world =
        (ss.perform (.drain (p.timeAt reading))).status? ∧
      Beats ends (p.step reading).2 (ss.perform (.drain (p.timeAt reading))) := by
  obtain ⟨hstatus, hplace⟩ := h.place.drain h.table h.table' (p.timeAt reading) p.world ss.world
  obtain ⟨cs, hleft, hleft'⟩ := h.place.left
  obtain ⟨attempts, status, left, s, w, hdrains⟩ := hleft.drains (p.timeAt reading) p.world
  obtain ⟨attempts', status', left', s', w', hdrains'⟩ :=
    hleft'.drains (p.timeAt reading) ss.world
  obtain ⟨frameIndex, lastTime, timeline, world, hplayback⟩ := exists_step hdrains.drain_eq
  have hsession : (ss.perform (.drain (p.timeAt reading))).scheduler = s' := by
    simp [Session.perform, hdrains'.drain_eq]
  rw [hdrains.drain_eq, hdrains'.drain_eq] at hplace
  constructor
  · rw [hstatus]
    simp [Session.perform, Session.status?, Scheduler.drainStatus?]
  · refine ⟨?_, ?_, ?_⟩
    · rw [hplayback, hsession]
      exact ⟨hplace.ended, hplace.left⟩
    · rw [hplayback]
      exact hdrains.setting.table ▸ h.table
    · rw [hsession]
      exact hdrains'.setting.table ▸ h.table'

section

variable {out : Path} {fps : Float32} {limit : Option Nat} {start : List (Call ⊕ μ)}
  {reading : Nat → Int64}

/-- The drains at the times of the first `n` frames. -/
def beats (fps : Float32) (n : Nat) : List Order :=
  (List.range n).map fun k => .drain (frameTime k fps)

omit [Graphics σ] [Part π (Recorder μ σ)] in
theorem run_beats_succ (ss : Session π (Recorder μ σ)) (fps : Float32) (n : Nat) :
    ss.run (beats fps (n + 1)) = (ss.run (beats fps n)).perform (.drain (frameTime n fps)) := by
  simp [beats, Session.run, List.range_succ]

theorem Beats.after (h : Beats ends p ss) (hp : Captured Q out fps limit start 0 p)
    (hparts : Part.Adds π σ Q) (hshown : p.Shown (quiet reading)) {i : Nat}
    (hopen : ∀ j < i, p.statusAt (quiet reading) j = some .pending) :
    Beats ends (p.after (quiet reading) i) (ss.run (beats fps i)) := by
  induction i with
  | zero => exact h
  | succ i ih =>
    have hopen' : ∀ j < i, p.statusAt (quiet reading) j = some .pending := fun j hj =>
      hopen j (Nat.lt_succ_of_lt hj)
    have hnext := ((ih hopen').step (reading i)).2
    rw [(hp.after hparts hshown hopen').timeAt_eq] at hnext
    rw [after_succ, run_beats_succ]
    exact hnext

theorem Beats.statusAt_eq (h : Beats ends p ss) (hp : Captured Q out fps limit start 0 p)
    (hparts : Part.Adds π σ Q) (hshown : p.Shown (quiet reading)) {i : Nat}
    (hopen : ∀ j < i, p.statusAt (quiet reading) j = some .pending) :
    p.statusAt (quiet reading) i = (ss.run (beats fps (i + 1))).status? := by
  have htime := (hp.after hparts hshown hopen).timeAt_eq (reading i)
  have hnow := ((h.after hp hparts hshown hopen).step (reading i)).1
  rw [htime] at hnow
  rw [run_beats_succ, ← hnow, ← htime]
  rfl

end

end

/-! ## From the start of a run -/

/-- Playback when the first frame is about to be captured into the directory `out`. -/
def capturing (out : Path) (disk : Disk) (p : Playback π σ) : Playback π σ :=
  note { p with
    player := { p.player with mode := .capture out p.player.mode.fps }
    world := { p.world with disk } } (.capturing out)

omit [Graphics σ] [Part π (Recorder μ σ)] in
/-- To go back is a matter of the disk and of what is reported. -/
theorem exists_leaveCaptureDir (previous : Location) (p : Playback π σ) :
    ∃ disk journal,
      p.leaveCaptureDir previous = { p with world := { p.world with disk, journal } } := by
  unfold leaveCaptureDir
  dsimp only
  split
  · exact ⟨_, _, rfl⟩
  · exact ⟨_, _, rfl⟩

omit [Graphics σ] [Part π (Recorder μ σ)] in
theorem entries_leaveCaptureDir (previous : Location) (p : Playback π (Recorder μ σ)) :
    (p.leaveCaptureDir previous).world.entries = p.world.entries := by
  obtain ⟨disk, journal, h⟩ := p.exists_leaveCaptureDir previous
  rw [h]
  rfl

omit [Part π (Recorder μ σ)] in
/-- A run of captured frames is its frames, between entering their directory and leaving it. -/
theorem run_of_capture [Part π σ] {dir out : Path} {disk : Disk} {p : Playback π σ} {fps : Float32}
    (hmode : p.player.mode = .capture dir fps) (hfps : isFrameRate fps = true)
    (hdir : openCaptureDir dir p.world.disk = (.ok out, disk)) (fuel : Nat) (cues : Cues) :
    p.run fuel cues = (((p.capturing out disk).runFrames fuel cues.frame).1,
      ((p.capturing out disk).runFrames fuel cues.frame).2.leaveCaptureDir
        p.world.disk.workingDir) := by
  have hrate : isFrameRate (PlayMode.capture dir fps).fps = true := hfps
  simp only [run, hmode, hrate, if_true, runCapture, hdir, capturing]
  rfl

theorem run_of_openCaptureDir {dir out : Path} {disk : Disk} {p : Playback π (Recorder μ σ)}
    {fps : Float32} (hmode : p.player.mode = .capture dir fps) (hfps : isFrameRate fps = true)
    (hdir : openCaptureDir dir p.world.disk = (.ok out, disk)) (fuel : Nat) (cues : Cues) :
    (p.run fuel cues).1 = ((p.capturing out disk).runFrames fuel cues.frame).1 ∧
      (p.run fuel cues).2.world.entries =
        ((p.capturing out disk).runFrames fuel cues.frame).2.world.entries := by
  rw [run_of_capture hmode hfps hdir]
  exact ⟨rfl, entries_leaveCaptureDir _ _⟩

/-- What comes of capturing a script that is a text: the run stops at the first frame whose drain
has nothing to come, or at the limit, and has written the files of the frames it counts. If the
table is the standard one, the statuses are those of draining alone. Parts and handlers may do
whatever they want but for taking back what is on record, and `Q` is what they add to it. -/
theorem run_captures (content : String) (s : Scheduler π (Recorder μ σ)) (w : World (Recorder μ σ))
    (hparts : Part.Adds π σ Q) (htable : s.table.Adds Q) {dir out : Path} {disk : Disk}
    {fps : Float32} {limit : Option Nat} {cues : Cues} {reading : Nat → Int64}
    (hquiet : cues.frame = quiet reading) (hfps : isFrameRate fps = true)
    (hlimit : ∀ L, limit = some L → 1 ≤ L) (hdir : openCaptureDir dir w.disk = (.ok out, disk))
    (hshown : Shown cues.frame (capturing out disk
      (ofSession { mode := .capture dir fps, maxFrames := limit } (.opened content s w)))) :
    let ss := Session.opened content s w
    let p := ofSession { mode := .capture dir fps, maxFrames := limit } ss
    let first := p.capturing out disk
    Outcome Q out fps limit (first.statusAt cues.frame) w.entries (p.run · cues) ∧
      (s.table = .standard → Outcome Q out fps limit
        (fun i => (ss.run (beats fps (i + 1))).status?) w.entries (p.run · cues)) ∧
      (∀ i j, frameFileName i = frameFileName j → i = j) ∧
      ∀ i j, frameFile out i = frameFile out j → i = j := by
  intro ss p first
  have hleft : first.scheduler.Left (Script.commandsOf content) :=
    ⟨_, rfl, Script.Reader.holds_text content⟩
  have hfirst : Captured Q out fps limit w.entries 0 first :=
    ⟨rfl, rfl, fun k hk => by omega, rfl, ⟨_, hleft⟩, htable, [], .none,
      (List.append_nil w.entries).symm⟩
  rw [hquiet] at hshown
  have hframes := hfirst.outcome hparts hlimit hshown
  have hrun : Outcome Q out fps limit (first.statusAt cues.frame) w.entries (p.run · cues) := by
    have hmode : p.player.mode = .capture dir fps := rfl
    rw [hquiet]
    exact hframes.of_run fun fuel => hquiet ▸ run_of_openCaptureDir hmode hfps hdir fuel cues
  refine ⟨hrun, fun hs => hrun.congr fun i hopen => ?_, fun i j h => frameFileName_inj h,
    fun i j h => frameFile_inj h⟩
  have hends : s.table.EndsBy fun c => c.deed.ends := hs ▸ CommandTable.standard_endsBy
  have hbeats : Beats (fun c => c.deed.ends) first ss := ⟨⟨rfl, _, hleft, hleft⟩, hends, hends⟩
  rw [hquiet] at hopen ⊢
  exact hbeats.statusAt_eq hfirst hparts hshown hopen

/-- A script that ends the reel in the third frame. -/
theorem run_captures_three :
    let s : Scheduler Scene (Recorder Empty Rehearsal) :=
      { table := .standard, registry := ⟨NameMap.empty.insert "a" ⟨.solid .white, {}, .idle⟩⟩ }
    let w : World (Recorder Empty Rehearsal) := { gfx := { inner := {} } }
    let ss := Session.opened "0 START_PART a\n50 END\n" s w
    let p := ofSession { mode := .capture ⟨"frames"⟩ 25, maxFrames := some 5 } ss
    let out : Path := ⟨"/frames"⟩
    let disk := (openCaptureDir ⟨"frames"⟩ w.disk).2
    let Q : Call ⊕ Empty → Prop := fun x => captured? x = none
    Part.Adds Scene Rehearsal Q ∧ s.table.Adds Q ∧ isFrameRate 25 = true ∧
      (Cues.still 0).frame = quiet (fun _ => 0) ∧ (∀ L, some 5 = some L → 1 ≤ L) ∧
      openCaptureDir ⟨"frames"⟩ w.disk = (.ok out, disk) ∧
      Shown (Cues.still 0).frame (p.capturing out disk) ∧
      Outcome Q out 25 (some 5) (fun i => (ss.run (beats 25 (i + 1))).status?) w.entries
        (p.run · (.still 0)) := by
  intro s w ss p out disk Q
  have hparts : Part.Adds Scene Rehearsal Q := fun part frame w => .after w rfl
  have htable : s.table.Adds Q := by
    refine CommandTable.standard_adds fun c hc => ?_
    cases c with
    | capture path => simp [Call.isLoad] at hc
    | _ => rfl
  have hfps : isFrameRate 25 = true := by decide +kernel
  have hlimit : ∀ L, some 5 = some L → 1 ≤ L := by simp
  have hdir : openCaptureDir ⟨"frames"⟩ w.disk = (.ok out, disk) :=
    Prod.ext (by decide +kernel) rfl
  have hshown : Shown (Cues.still 0).frame (p.capturing out disk) := by
    intro i e hopen
    have hends : (p.capturing out disk).statusAt (Cues.still 0).frame 2 = some .ended := by
      decide +kernel
    have hi : i < 3 := by
      refine Nat.lt_of_not_le fun hle => ?_
      have hpending := hopen 2 (by omega)
      rw [hends] at hpending
      simp at hpending
    have hok : ∀ i < 3, ((p.capturing out disk).frameAt (Cues.still 0).frame i).1.isOk = true := by
      decide +kernel
    intro herror
    have hnow := hok i hi
    rw [herror] at hnow
    simp [Except.isOk, Except.toBool] at hnow
  exact ⟨hparts, htable, hfps, rfl, hlimit, hdir, hshown,
    (run_captures _ s w hparts htable rfl hfps hlimit hdir hshown).2.1 rfl⟩

end DemoReel.Playback
