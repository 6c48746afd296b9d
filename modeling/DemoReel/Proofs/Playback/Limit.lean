import DemoReel.Proofs.Playback.Exits

/-!
# Frame limits

The limit of a run is looked at behind each frame, not in front of it. Main statements: a run with a
limit comes to an end (`isSome_run_of_limit`). It keeps to a limit of one frame or more; it keeps to
a limit of no frames exactly if its first frame fails or never comes (`withinLimit_iff`).
-/

namespace DemoReel.Playback

variable {π σ : Type}

/-- No more than `limit` frames have been rendered, by the count of the player and by what the run
tells. -/
structure WithinLimit (limit : Nat) (outcome : Except RunError RunSummary) (q : Playback π σ) :
    Prop where
  counted : q.player.frameIndex ≤ limit
  told : ∀ n, framesOf outcome = some n → n ≤ limit

/-! ## What ends a run -/

theorem verdict_eq_none_iff {stop : Bool} {p : Playback π σ}
    {result : Except RunError FrameStatus} :
    p.verdict stop result = none ↔
      result = .ok .goOn ∧ stop = false ∧ p.player.isDone = false := by
  cases result with
  | error e => simp [verdict]
  | ok status => cases status <;> simp [verdict]

/-- A run that tells how many frames it has rendered tells what the player has counted. -/
theorem eq_frameIndex_of_verdict {stop : Bool} {p : Playback π σ}
    {result : Except RunError FrameStatus} {outcome : Except RunError RunSummary}
    {events : List Event} {n : Nat}
    (herror : ∀ e, result = .error e → framesOf (.error e) = none)
    (h : p.verdict stop result = some (outcome, events)) (hn : framesOf outcome = some n) :
    n = p.player.frameIndex := by
  cases result with
  | error e =>
    cases h
    rw [herror e rfl] at hn
    cases hn
  | ok status =>
    cases status with
    | goOn =>
      simp only [verdict, Option.ite_none_right_eq_some, Option.some.injEq, Prod.mk.injEq] at h
      obtain ⟨-, rfl, -⟩ := h
      exact (Option.some.inj hn).symm
    | finished | exhausted =>
      cases h
      exact (Option.some.inj hn).symm

theorem lt_of_isDone_eq_false {p : Player} {limit : Nat} (hlimit : p.maxFrames = some limit)
    (h : p.isDone = false) : p.frameIndex < limit := by
  simpa [Player.isDone, hlimit] using h

theorem counted_le (result : Except RunError FrameStatus) : counted result ≤ 1 := by
  cases result <;> simp [counted]

section

variable [Graphics σ] [Part π σ] {p q : Playback π σ} {cues : Nat → Cue}

/-- As long as nothing ends a run, every frame counts. -/
theorem exists_player_after {m : Nat} (hopen : ∀ i < m, p.verdictAt cues i = none) :
    ∃ lastTime, (p.after cues m).player =
      { p.player with frameIndex := p.player.frameIndex + m, lastTime } := by
  induction m with
  | zero => exact ⟨p.player.lastTime, rfl⟩
  | succ m ih =>
    obtain ⟨_, hafter⟩ := ih fun i hi => hopen i (Nat.lt_succ_of_lt hi)
    obtain ⟨hgoOn, -⟩ := verdict_eq_none_iff.1 (hopen m (Nat.lt_succ_self m))
    obtain ⟨lastTime, hframe⟩ := ((p.after cues m).stepped_frame (cues m)).player
    have hgoOn' : ((p.after cues m).frame (cues m)).1 = .ok .goOn := hgoOn
    rw [hgoOn', player_heed, hafter] at hframe
    refine ⟨lastTime, ?_⟩
    rw [after_succ]
    exact hframe

/-- A run goes on only below its limit. -/
theorem lt_of_verdictAt_eq_none {limit i : Nat} (hlimit : p.player.maxFrames = some limit)
    (hnew : p.player.frameIndex = 0) (hopen : ∀ j < i + 1, p.verdictAt cues j = none) :
    i + 1 < limit := by
  obtain ⟨_, hafter⟩ := exists_player_after hopen
  obtain ⟨-, -, hdone⟩ := verdict_eq_none_iff.1 (hopen i (Nat.lt_succ_self i))
  rw [← after_succ, hafter, hnew, Nat.zero_add] at hdone
  refine lt_of_isDone_eq_false ?_ hdone
  exact hlimit

/-- The last frame of a run is the only one that can be beyond its limit. -/
theorem frameIndex_runFrames {fuel limit : Nat} {outcome : Except RunError RunSummary}
    (hlimit : p.player.maxFrames = some limit) (hnew : p.player.frameIndex = 0)
    (h : p.runFrames fuel cues = (some outcome, q)) :
    q.player.frameIndex ≤ max limit 1 ∧
      (limit = 0 → q.player.frameIndex = counted (p.frame (cues 0)).1) ∧
      ∀ n, framesOf outcome = some n → n = q.player.frameIndex := by
  obtain ⟨m, events, hopen, hverdict, rfl⟩ := exists_verdict_of_runFrames h
  have hframe := (p.after cues m).stepped_frame (cues m)
  have hcount : (p.frameAt cues m).2.player.frameIndex =
      m + counted (p.frameAt cues m).1 := by
    obtain ⟨_, hafter⟩ := exists_player_after hopen
    obtain ⟨_, hplayer⟩ := hframe.player
    rw [player_heed, hafter, hnew, Nat.zero_add] at hplayer
    exact congrArg Player.frameIndex hplayer
  have hm : m = 0 ∨ m < limit := by
    cases m with
    | zero => exact .inl rfl
    | succ i => exact .inr (lt_of_verdictAt_eq_none hlimit hnew hopen)
  refine ⟨?_, fun hzero => ?_, fun n hn => eq_frameIndex_of_verdict hframe.error hverdict hn⟩
  · have hle := counted_le (p.frameAt cues m).1
    show (p.frameAt cues m).2.player.frameIndex ≤ max limit 1
    omega
  · obtain rfl : m = 0 := by omega
    show (p.frameAt cues 0).2.player.frameIndex = _
    rw [hcount, Nat.zero_add]
    rfl

theorem isSome_runFrames {fuel limit : Nat} (hlimit : p.player.maxFrames = some limit)
    (hnew : p.player.frameIndex = 0) (hfuel : max limit 1 ≤ fuel) :
    (p.runFrames fuel cues).1.isSome = true := by
  cases houtcome : (p.runFrames fuel cues).1 with
  | some outcome => rfl
  | none =>
    have hopen := verdictAt_eq_none_of_runFrames houtcome
    obtain ⟨i, rfl⟩ : ∃ i, fuel = i + 1 := ⟨fuel - 1, by omega⟩
    have hlt := lt_of_verdictAt_eq_none hlimit hnew hopen
    omega

/-! ## Runs with a limit -/

section

variable {cues : Cues}

/-- A run with a limit comes to an end. -/
theorem isSome_run_of_limit {fuel limit : Nat} (hlimit : p.player.maxFrames = some limit)
    (hnew : p.player.frameIndex = 0) (hfuel : max limit 1 ≤ fuel) :
    (p.run fuel cues).1.isSome = true := by
  cases p.way_run fuel cues with
  | refused rate result => rw [result]; rfl
  | unopened mode rate opened stays result => rw [result]; rfl
  | live mode rate result =>
    rw [result]
    rw [← p.player_startClock cues.opening] at hlimit hnew
    exact isSome_runFrames hlimit hnew hfuel
  | @captured _ _ out disk mode rate opened result =>
    rw [result]
    exact isSome_runFrames (p := p.capturing out disk) hlimit hnew hfuel

/-- What the first frame of a run says; `none` if the run comes to no frame. -/
def firstFrame? (cues : Cues) (p : Playback π σ) : Option (Except RunError FrameStatus) :=
  if isFrameRate p.player.mode.fps then
    match p.player.mode with
    | .live _ => some ((p.startClock cues.opening).frame (cues.frame 0)).1
    | .capture dir _ =>
      match openCaptureDir dir p.world.disk with
      | (.error _, _) => none
      | (.ok out, disk) => some ((p.capturing out disk).frame (cues.frame 0)).1
  else none

/-- A run renders frames from its first frame on, or none at all. -/
theorem frames_run {fuel limit : Nat} {outcome : Except RunError RunSummary}
    (hlimit : p.player.maxFrames = some limit) (hnew : p.player.frameIndex = 0)
    (h : p.run fuel cues = (some outcome, q)) :
    q.player.frameIndex ≤ max limit 1 ∧
      (limit = 0 → q.player.frameIndex = ((p.firstFrame? cues).map counted).getD 0) ∧
      ∀ n, framesOf outcome = some n → n = q.player.frameIndex := by
  cases p.way_run fuel cues with
  | refused rate result =>
    rw [result] at h
    cases h
    refine ⟨by omega, fun _ => ?_, fun n hn => by cases hn⟩
    simp [firstFrame?, rate, hnew]
  | unopened mode rate opened stays result =>
    rw [result] at h
    cases h
    refine ⟨by show p.player.frameIndex ≤ _; omega, fun _ => ?_, fun n hn => by cases hn⟩
    simp [firstFrame?, mode, PlayMode.fps, rate, opened, hnew]
  | live mode rate result =>
    obtain ⟨houtcome, rfl⟩ := Prod.mk.inj (result.symm.trans h)
    rw [← p.player_startClock cues.opening] at hlimit hnew
    have hframes := frameIndex_runFrames hlimit hnew (Prod.ext houtcome rfl)
    rw [player_stopClock]
    simp only [firstFrame?, mode, PlayMode.fps, rate, if_true]
    exact hframes
  | @captured _ _ out disk mode rate opened result =>
    obtain ⟨houtcome, rfl⟩ := Prod.mk.inj (result.symm.trans h)
    have hframes := frameIndex_runFrames (p := p.capturing out disk) hlimit hnew
      (Prod.ext houtcome rfl)
    rw [player_leaveCaptureDir]
    simp only [firstFrame?, mode, PlayMode.fps, rate, if_true, opened]
    exact hframes

/-- The limit of a run that starts with no frames counted is kept if it is positive. A limit of no
frames is kept exactly if no frame can be shown; else the run renders one frame. -/
theorem withinLimit_iff {fuel limit : Nat} {outcome : Except RunError RunSummary}
    (hlimit : p.player.maxFrames = some limit) (hnew : p.player.frameIndex = 0)
    (h : p.run fuel cues = (some outcome, q)) :
    (WithinLimit limit outcome q ↔
      (limit = 0 → ∀ result, p.firstFrame? cues = some result → result.isOk = false)) ∧
      q.player.frameIndex ≤ max limit 1 := by
  obtain ⟨hmax, hzero, htold⟩ := frames_run hlimit hnew h
  refine ⟨⟨fun hwithin hz result hresult => ?_, fun hfirst => ?_⟩, hmax⟩
  · have hcount := hwithin.counted
    rw [hzero hz, hresult, hz] at hcount
    cases result with
    | ok status => simp [counted] at hcount
    | error e => rfl
  · have hwithin : q.player.frameIndex ≤ limit := by
      rcases Nat.eq_zero_or_pos limit with hz | hpos
      · rw [hzero hz]
        cases hresult : p.firstFrame? cues with
        | none => simp
        | some result =>
          have hfails := hfirst hz result hresult
          cases result with
          | ok status => cases hfails
          | error e => simp [counted]
      · omega
    exact ⟨hwithin, fun n hn => htold n hn ▸ hwithin⟩

/-- A live reel that is cut off after three frames. -/
theorem withinLimit_three :
    let s : Scheduler Scene (Recorder Empty Rehearsal) := { table := .standard }
    let w : World (Recorder Empty Rehearsal) := { gfx := { inner := {} } }
    let p := ofSession { mode := .live 25, maxFrames := some 3 } (.opened "99999 END\n" s w)
    let cues : Cues :=
      ⟨{ reading := 0 }, fun n => { reading := 40 * .ofNat n }, { reading := 120 }⟩
    let ran := p.run 5 cues
    p.player.maxFrames = some 3 ∧ p.player.frameIndex = 0 ∧
      ran = (some (.ok ⟨3, 80, false⟩), ran.2) ∧
      (WithinLimit 3 (.ok ⟨3, 80, false⟩) ran.2 ↔
        (3 = 0 → ∀ result, p.firstFrame? cues = some result → result.isOk = false)) ∧
      ran.2.player.frameIndex ≤ max 3 1 := by
  intro s w p cues ran
  have hran : ran = (some (.ok ⟨3, 80, false⟩), ran.2) := Prod.ext (by decide +kernel) rfl
  have hlimit : p.player.maxFrames = some 3 := rfl
  have hwithin := withinLimit_iff hlimit rfl hran
  exact ⟨hlimit, rfl, hran, hwithin⟩

/-- A limit of no frames does not keep the end of the reel from being shown. -/
theorem not_withinLimit_zero :
    let s : Scheduler Scene (Recorder Empty Rehearsal) := { table := .standard }
    let w : World (Recorder Empty Rehearsal) := { gfx := { inner := {} } }
    let p := ofSession { mode := .live 25, maxFrames := some 0 } (.opened "10 END\n" s w)
    let ran := p.run 5 (.still 0)
    p.player.maxFrames = some 0 ∧ p.player.frameIndex = 0 ∧
      ran.1 = some (.ok ⟨1, 0, false⟩) ∧ ran.2.player.frameIndex = 1 ∧
      ¬ WithinLimit 0 (.ok ⟨1, 0, false⟩) ran.2 := by
  intro s w p ran
  have hframes : ran.2.player.frameIndex = 1 := by decide +kernel
  refine ⟨rfl, rfl, by decide +kernel, hframes, fun hwithin => ?_⟩
  have hcount := hwithin.counted
  rw [hframes] at hcount
  omega

end

end

end DemoReel.Playback
