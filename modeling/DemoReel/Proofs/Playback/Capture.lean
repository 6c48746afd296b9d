import DemoReel.Proofs.Graphics.Loads
import DemoReel.Proofs.Playback.Frame
import DemoReel.Proofs.Playback.Remaining
import DemoReel.Proofs.Playback.Run

/-!
# A run of captured frames

What comes of a run that writes its frames to files. Main statement: the run stops at the first
frame whose drain has nothing to come, or at the limit, and it has written one file for each frame
that it counts, in order and under names that differ (`Captured.outcome`, `frameFile_inj`).
-/

namespace DemoReel

open Number

variable {π σ μ : Type} {Q : Call ⊕ μ → Prop}

/-! ## What commands put on record -/

theorem World.Loaded.grows [Graphics σ] {w w' : World (Recorder μ σ)} {calls : List Call}
    (h : Loaded w calls w') (hQ : ∀ c : Call, c.isLoad = true → Q (.inl c)) : w.Grows Q w' := by
  induction h with
  | done w j => exact .of_entries rfl
  | @load w w' c calls j hc later ih =>
    have hnow : w.Grows Q (w.withJournal j) := .of_entries rfl
    exact (hnow.trans (.after (w.withJournal j) (hQ c hc))).trans ih

/-- Handlers can only add to the record, and `Q` holds of what they add. -/
def CommandTable.Adds (t : CommandTable π (Recorder μ σ)) (Q : Call ⊕ μ → Prop) : Prop :=
  ∀ c assets time (st : Stage π (Recorder μ σ)),
    st.world.Grows Q (t.dispatch c assets time st).2.world

theorem CommandTable.standard_adds [Graphics σ] (hQ : ∀ c : Call, c.isLoad = true → Q (.inl c)) :
    (standard : CommandTable π (Recorder μ σ)).Adds Q := by
  intro c assets time st
  rw [dispatch_eq_carryOut]
  cases c.deed with
  | refuse why => exact .refl st.world
  | finish => exact .refl st.world
  | ask request =>
    simp only [Deed.carryOut, Handler.updating]
    split
    · exact .refl st.world
    · exact .of_entries (World.entries_noteAll st.world _)
  | load c =>
    obtain ⟨calls, hloaded⟩ := Effect.exists_loaded_ofArgs assets c.args st.world
    simp only [Deed.carryOut, Handler.effect]
    split
    · next heq =>
      rw [heq] at hloaded
      exact hloaded.grows hQ
    · next heq =>
      rw [heq] at hloaded
      exact (hloaded.grows hQ).trans (.of_entries rfl)

theorem Carried.grows {t : CommandTable π (Recorder μ σ)} (ht : t.Adds Q) {assets : Assets}
    {st st' : Stage π (Recorder μ σ)} {tried : List (Int × Attempt)}
    (h : Carried t assets st tried st') : st.world.Grows Q st'.world := by
  induction h with
  | done st j => exact .of_entries rfl
  | @next st st₁ st₂ time c result tried j now later ih =>
    have hnow := ht c assets time (st.withJournal j)
    rw [now] at hnow
    have hstart : st.world.Grows Q (st.withJournal j).world := .of_entries rfl
    exact (hstart.trans hnow).trans ih

/-! ## The files of frames -/

theorem frameFileName_inj {i j : Nat} (h : frameFileName i = frameFileName j) : i = j := by
  have hchars := congrArg String.toList h
  simp only [frameFileName, String.toList_append, String.toList_ofList] at hchars
  exact paddedDigits_inj (List.append_cancel_left (List.append_cancel_right hchars))

theorem isAbsolute_frameFileName (i : Nat) : (⟨frameFileName i⟩ : Path).isAbsolute = false := by
  simp [Path.isAbsolute, frameFileName]

theorem Path.join_inj {dir p q : Path} (hp : p.isAbsolute = false) (hq : q.isAbsolute = false)
    (h : dir.join p = dir.join q) : p = q := by
  simp only [join, hp, hq, Bool.false_eq_true, if_false] at h
  have hcancel : ∀ front : String, front ++ p.text = front ++ q.text → p = q := by
    intro front heq
    have hchars := congrArg String.toList heq
    rw [String.toList_append, String.toList_append] at hchars
    cases p
    cases q
    exact congrArg Path.mk (String.toList_inj.1 (List.append_cancel_left hchars))
  split at h
  · exact hcancel _ (congrArg Path.text h)
  · exact hcancel _ (congrArg Path.text h)

/-- The file of a frame in a directory. -/
def frameFile (dir : Path) (index : Nat) : Path := dir.join ⟨frameFileName index⟩

theorem frameFile_inj {dir : Path} {i j : Nat} (h : frameFile dir i = frameFile dir j) : i = j :=
  frameFileName_inj (congrArg Path.text
    (Path.join_inj (isAbsolute_frameFileName i) (isAbsolute_frameFileName j) h))

/-- The file that an entry of a record writes, if it writes one. -/
def captured? : Call ⊕ μ → Option Path
  | .inl (.capture path) => some path
  | _ => none

/-- What can be on record beside the files of a run: what parts and handlers add (`Q`), and calls
that write no file. -/
def Incidental (Q : Call ⊕ μ → Prop) (x : Call ⊕ μ) : Prop :=
  Q x ∨ ∃ c, x = .inl c ∧ c.isCapture = false

/-- What is put on record while `n` frames are captured: each frame ends with the call that writes
its file. -/
inductive FramesOn (Q : Call ⊕ μ → Prop) (out : Path) : Nat → List (Call ⊕ μ) → Prop where
  | none : FramesOn Q out 0 []
  | frame {n : Nat} {l others : List (Call ⊕ μ)} (earlier : FramesOn Q out n l)
      (h : ∀ x ∈ others, Incidental Q x) :
      FramesOn Q out (n + 1) (l ++ (others ++ [.inl (.capture (frameFile out n))]))

/-- If parts and handlers write no files, the files on record are those of the frames, in order. -/
theorem FramesOn.filterMap_captured? {out : Path} {n : Nat} {l : List (Call ⊕ μ)}
    (h : FramesOn Q out n l) (hQ : ∀ path, ¬ Q (.inl (.capture path))) :
    l.filterMap captured? = (List.range n).map (frameFile out) := by
  induction h with
  | none => rfl
  | @frame n l others earlier h ih =>
    have hothers : others.filterMap captured? = [] := by
      refine List.filterMap_eq_nil_iff.2 fun x hx => ?_
      unfold captured?
      split
      · next path =>
        rcases h _ hx with hq | ⟨c, hc, hcapture⟩
        · exact absurd hq (hQ path)
        · cases hc
          simp [Call.isCapture] at hcapture
      · rfl
    rw [List.filterMap_append, List.filterMap_append, ih, hothers, List.range_succ, List.map_append]
    rfl

namespace Playback

/-! ## One captured frame -/

/-- A run that has captured `n` frames into `out`, since `start` was on record. -/
structure Captured (Q : Call ⊕ μ → Prop) (out : Path) (fps : Float32) (limit : Option Nat)
    (start : List (Call ⊕ μ)) (n : Nat) (p : Playback π (Recorder μ σ)) : Prop where
  mode : p.player.mode = .capture out fps
  frameIndex : p.player.frameIndex = n
  lastTime : ∀ k, n = k + 1 → p.player.lastTime = frameTime k fps
  maxFrames : p.player.maxFrames = limit
  left : ∃ cs, p.scheduler.Left cs
  adds : p.scheduler.table.Adds Q
  frames : ∃ l, FramesOn Q out n l ∧ p.world.entries = start ++ l

theorem Captured.timeAt_eq {out : Path} {fps : Float32} {limit : Option Nat}
    {start : List (Call ⊕ μ)} {n : Nat} {p : Playback π (Recorder μ σ)}
    (h : Captured Q out fps limit start n p) (reading : Int64) :
    p.timeAt reading = frameTime n fps := by
  rw [timeAt, h.mode, h.frameIndex]
  rfl

variable [Graphics σ] [Part π (Recorder μ σ)]

/-- Composing a picture writes no file. -/
theorem grows_compose (hparts : Part.Adds π σ Q) (time : Int) (commands : Nat)
    (p : Playback π (Recorder μ σ)) :
    p.world.Grows (Incidental Q) (compose time commands p).world := by
  refine ⟨_, (entries_compose hparts time commands p).trans (by simp only [List.append_assoc]; rfl),
    fun x hx => ?_⟩
  simp only [List.mem_append, List.mem_map, List.mem_flatMap] at hx
  rcases hx with ⟨c, hc, rfl⟩ | ⟨t, -, hx⟩ | ⟨q, -, rfl⟩
  · refine .inr ⟨c, rfl, ?_⟩
    simp only [background, List.mem_cons, List.not_mem_nil, or_false] at hc
    rcases hc with rfl | rfl | rfl <;> rfl
  · exact Turn.mem_entries hparts hx
  · exact .inr ⟨_, rfl, rfl⟩

namespace Captured

variable {out : Path} {fps : Float32} {limit : Option Nat} {start : List (Call ⊕ μ)} {n : Nat}
  {p : Playback π (Recorder μ σ)}

/-- A frame that is shown counts, says what its drain tells, and is on record. -/
theorem step (h : Captured Q out fps limit start n p) (hparts : Part.Adds π σ Q) {reading : Int64}
    (hshown : ∀ e, (p.step reading).1 ≠ .error (.graphics e)) :
    ∃ status, p.scheduler.drainStatus? (p.timeAt reading) p.world = some status ∧
      (p.step reading).1 = .ok (.ofDrain status) ∧
      Captured Q out fps limit start (n + 1) (p.step reading).2 := by
  obtain ⟨cs, hleft⟩ := h.left
  obtain ⟨attempts, status, left, s, w, hdrains⟩ := hleft.drains (p.timeAt reading) p.world
  have hstep := step_of_drain hdrains.drain_eq
  generalize hpicture : compose (p.timeAt reading) _ { p with scheduler := s, world := w } = picture
    at hstep
  have hsaves : picture.player.mode.saves picture.player.frameIndex =
      [.capture (frameFile out n)] := by
    rw [← hpicture, mode_compose, frameIndex_compose]
    show p.player.mode.saves p.player.frameIndex = _
    rw [h.mode, h.frameIndex]
    rfl
  -- Up to the file, the frame has only put on record what is beside the files.
  obtain ⟨others, hothers, hincidental⟩ : p.world.Grows (Incidental Q) picture.world := by
    have hdrained : p.world.Grows (Incidental Q) w :=
      (hdrains.carried.grows h.adds).mono fun _ => Or.inl
    exact hdrained.trans (hpicture ▸ grows_compose hparts _ _ _)
  have hpresent' : ∀ x ∈ others ++ [.inl .present], Incidental Q x :=
    List.forall_mem_append.2 ⟨hincidental, List.forall_mem_singleton.2 (.inr ⟨.present, rfl, rfl⟩)⟩
  have hentries := entries_deliver status picture
  rw [hstep] at hshown ⊢
  obtain ⟨hpresent, world, hdeliver⟩ :=
    (deliver_cases status picture).resolve_right fun ⟨e, world, heq⟩ =>
      hshown e (congrArg Prod.fst heq)
  rw [hdeliver, if_pos hpresent, hsaves, hothers] at hentries
  obtain ⟨l, hl, hstart⟩ := h.frames
  rw [hdeliver, ← hpicture]
  refine ⟨status, hdrains.drainStatus?_eq, rfl, h.mode, congrArg (· + 1) h.frameIndex, ?_,
    h.maxFrames, ⟨left, hdrains.remains⟩, hdrains.setting.table ▸ h.adds,
    _, hl.frame hpresent', ?_⟩
  · intro k hk
    obtain rfl : n = k := by omega
    exact h.timeAt_eq reading
  · show world.entries = _
    rw [hentries, hstart]
    simp

end Captured

/-! ## A whole run -/

/-- What ends a run after frame number `i`, if its drain has told `status`. -/
def outcomeAfter (limit : Option Nat) (fps : Float32) (i : Nat) :
    DrainStatus → Option (Except RunError RunSummary)
  | .ended => some (.ok ⟨i + 1, frameTime i fps, true⟩)
  | .exhausted => some (.error (.exhausted (i + 1)))
  | .pending =>
    if limit.any (· ≤ i + 1) then some (.ok ⟨i + 1, frameTime i fps, false⟩) else none

/-- How many frames an outcome counts. -/
def framesOf : Except RunError RunSummary → Option Nat
  | .ok summary => some summary.frames
  | .error (.exhausted frames) => some frames
  | .error _ => none

theorem outcomeAfter_pending {limit : Option Nat} {i : Nat} (h : ∀ L, limit = some L → i + 1 < L)
    (fps : Float32) : outcomeAfter limit fps i .pending = none := by
  cases limit with
  | none => rfl
  | some L => simp [outcomeAfter, Nat.not_le.2 (h L rfl)]

theorem eq_pending_of_outcomeAfter {limit : Option Nat} {fps : Float32} {i : Nat}
    {status : DrainStatus} (h : outcomeAfter limit fps i status = none) : status = .pending := by
  cases status with
  | pending => rfl
  | ended => simp [outcomeAfter] at h
  | exhausted => simp [outcomeAfter] at h

theorem framesOf_outcomeAfter {limit : Option Nat} {fps : Float32} {i : Nat} {status : DrainStatus}
    {outcome : Except RunError RunSummary} (h : outcomeAfter limit fps i status = some outcome) :
    framesOf outcome = some (i + 1) := by
  cases status with
  | pending =>
    simp only [outcomeAfter, Option.ite_none_right_eq_some, Option.some.injEq] at h
    rw [← h.2]
    rfl
  | ended =>
    rw [← Option.some.inj h]
    rfl
  | exhausted =>
    rw [← Option.some.inj h]
    rfl

/-- What the drain of frame number `n` tells. -/
def statusAt (cues : Nat → Cue) (n : Nat) (p : Playback π (Recorder μ σ)) : Option DrainStatus :=
  let q := (p.after cues n).heed (cues n)
  q.scheduler.drainStatus? (q.timeAt (cues n).reading) q.world

/-- The backend never fails to present and save a frame, as long as the run goes on. -/
def Shown (cues : Nat → Cue) (p : Playback π (Recorder μ σ)) : Prop :=
  ∀ i e, (∀ j < i, p.statusAt cues j = some .pending) →
    (p.frameAt cues i).1 ≠ .error (.graphics e)

namespace Captured

variable {out : Path} {fps : Float32} {limit : Option Nat} {start : List (Call ⊕ μ)} {n : Nat}
  {p : Playback π (Recorder μ σ)} {reading : Nat → Int64}

omit [Graphics σ] [Part π (Recorder μ σ)] in
theorem verdict_eq (h : Captured Q out fps limit start (n + 1) p) (status : DrainStatus) :
    (p.verdict false (.ok (.ofDrain status))).map (·.1) = outcomeAfter limit fps n status := by
  have hsummary : ∀ ended, p.summary ended = ⟨n + 1, frameTime n fps, ended⟩ := by
    intro ended
    rw [summary, h.frameIndex, h.lastTime n rfl]
  have hdone : p.player.isDone = limit.any (· ≤ n + 1) := by
    rw [Player.isDone, h.maxFrames, h.frameIndex]
  cases status with
  | pending =>
    simp only [FrameStatus.ofDrain, verdict, Bool.false_or, hdone, hsummary, outcomeAfter]
    split <;> rfl
  | ended =>
    simp only [FrameStatus.ofDrain, verdict, hsummary, outcomeAfter]
    rfl
  | exhausted =>
    simp only [FrameStatus.ofDrain, verdict, h.frameIndex, outcomeAfter]
    rfl

/-- As long as nothing ends the run, frame after frame is captured. -/
theorem after (h : Captured Q out fps limit start 0 p) (hparts : Part.Adds π σ Q)
    (hshown : p.Shown (quiet reading)) {i : Nat}
    (hopen : ∀ j < i, p.statusAt (quiet reading) j = some .pending) :
    Captured Q out fps limit start i (p.after (quiet reading) i) := by
  induction i with
  | zero => exact h
  | succ i ih =>
    have hopen' : ∀ j < i, p.statusAt (quiet reading) j = some .pending := fun j hj =>
      hopen j (Nat.lt_succ_of_lt hj)
    obtain ⟨-, -, -, hnext⟩ := (ih hopen').step hparts (hshown i · hopen')
    rw [after_succ]
    exact hnext

theorem frameAt (h : Captured Q out fps limit start 0 p) (hparts : Part.Adds π σ Q)
    (hshown : p.Shown (quiet reading)) {i : Nat}
    (hopen : ∀ j < i, p.statusAt (quiet reading) j = some .pending) :
    ∃ status, p.statusAt (quiet reading) i = some status ∧
      Captured Q out fps limit start (i + 1) (p.frameAt (quiet reading) i).2 ∧
      (p.verdictAt (quiet reading) i).map (·.1) = outcomeAfter limit fps i status := by
  obtain ⟨status, hstatus, hsays, hnext⟩ :=
    (h.after hparts hshown hopen).step hparts (hshown i · hopen)
  refine ⟨status, hstatus, hnext, ?_⟩
  rw [← hnext.verdict_eq status, ← hsays]
  rfl

/-- A run stops at the first frame that ends it. -/
theorem runFrames_eq (h : Captured Q out fps limit start 0 p) (hparts : Part.Adds π σ Q)
    (hshown : p.Shown (quiet reading)) {m : Nat} {status : DrainStatus}
    {outcome : Except RunError RunSummary}
    (hopen : ∀ j < m, p.statusAt (quiet reading) j = some .pending)
    (hlimit : ∀ j < m, ∀ L, limit = some L → j + 1 < L)
    (hstatus : p.statusAt (quiet reading) m = some status)
    (houtcome : outcomeAfter limit fps m status = some outcome) {fuel : Nat} (hfuel : m < fuel) :
    (p.runFrames fuel (quiet reading)).1 = some outcome := by
  have hnone : ∀ i < m, p.verdictAt (quiet reading) i = none := by
    intro i hi
    obtain ⟨status', hstatus', -, hverdict⟩ :=
      h.frameAt hparts hshown fun j hj => hopen j (Nat.lt_trans hj hi)
    obtain rfl : .pending = status' := Option.some.inj ((hopen i hi).symm.trans hstatus')
    rw [outcomeAfter_pending (hlimit i hi)] at hverdict
    exact Option.map_eq_none_iff.1 hverdict
  obtain ⟨status', hstatus', -, hverdict⟩ := h.frameAt hparts hshown hopen
  obtain rfl : status = status' := Option.some.inj (hstatus.symm.trans hstatus')
  rw [houtcome] at hverdict
  obtain ⟨⟨outcome', events⟩, hstop, rfl⟩ := Option.map_eq_some_iff.1 hverdict
  rw [runFrames_of_verdict hnone hstop hfuel]

/-- A frame that did not end the run has drained to nothing but `pending`. -/
theorem statusAt_eq_pending (h : Captured Q out fps limit start 0 p) (hparts : Part.Adds π σ Q)
    (hshown : p.Shown (quiet reading)) {m : Nat}
    (hnone : ∀ i < m, p.verdictAt (quiet reading) i = none) :
    ∀ j < m, p.statusAt (quiet reading) j = some .pending := by
  -- A frame is known to be captured only if all drains before it were pending.
  intro j
  induction j using Nat.strongRecOn with
  | ind j ih =>
    intro hj
    obtain ⟨status, hstatus, -, hverdict⟩ :=
      h.frameAt hparts hshown fun k hk => ih k hk (Nat.lt_trans hk hj)
    rw [hnone j hj] at hverdict
    rw [hstatus, eq_pending_of_outcomeAfter hverdict.symm]

end Captured

/-- What comes of a run that captures frames into `out`. The drain of frame number `i` tells
`status i`; `start` was on record before the run, and `run fuel` is the run, followed for no more
than `fuel` frames. -/
structure Outcome (Q : Call ⊕ μ → Prop) (out : Path) (fps : Float32) (limit : Option Nat)
    (status : Nat → Option DrainStatus) (start : List (Call ⊕ μ))
    (run : Nat → Option (Except RunError RunSummary) × Playback π (Recorder μ σ)) : Prop where
  /-- No drain fails. -/
  total : ∀ i, (∀ j < i, status j = some .pending) → ∃ st, status i = some st
  ended : ∀ m, (∀ j < m, status j = some .pending) → status m = some .ended →
    (∀ L, limit = some L → m < L) → ∀ fuel, m < fuel →
      (run fuel).1 = some (.ok ⟨m + 1, frameTime m fps, true⟩)
  exhausted : ∀ m, (∀ j < m, status j = some .pending) → status m = some .exhausted →
    (∀ L, limit = some L → m < L) → ∀ fuel, m < fuel →
      (run fuel).1 = some (.error (.exhausted (m + 1)))
  limited : ∀ L, limit = some L → (∀ j < L, status j = some .pending) → ∀ fuel, L ≤ fuel →
    (run fuel).1 = some (.ok ⟨L, frameTime (L - 1) fps, false⟩)
  endless : limit = none → (∀ j, status j = some .pending) → ∀ fuel, (run fuel).1 = none
  /-- The frames that a run counts are the frames on record. -/
  files : ∀ fuel outcome p, run fuel = (some outcome, p) → ∃ n l,
    framesOf outcome = some n ∧ p.world.entries = start ++ l ∧ FramesOn Q out n l ∧
      ((∀ path, ¬ Q (.inl (.capture path))) →
        l.filterMap captured? = (List.range n).map (frameFile out))

theorem Captured.outcome {out : Path} {fps : Float32} {limit : Option Nat}
    {start : List (Call ⊕ μ)} {p : Playback π (Recorder μ σ)} {reading : Nat → Int64}
    (h : Captured Q out fps limit start 0 p) (hparts : Part.Adds π σ Q)
    (hlimit : ∀ L, limit = some L → 1 ≤ L) (hshown : p.Shown (quiet reading)) :
    Outcome Q out fps limit (p.statusAt (quiet reading)) start (p.runFrames · (quiet reading)) where
  total i hopen := by
    obtain ⟨status, hstatus, -, -⟩ := h.frameAt hparts hshown hopen
    exact ⟨status, hstatus⟩
  ended m hopen hstatus hL fuel hfuel :=
    h.runFrames_eq hparts hshown hopen (fun j hj L hlim => Nat.lt_of_le_of_lt hj (hL L hlim))
      hstatus rfl hfuel
  exhausted m hopen hstatus hL fuel hfuel :=
    h.runFrames_eq hparts hshown hopen (fun j hj L hlim => Nat.lt_of_le_of_lt hj (hL L hlim))
      hstatus rfl hfuel
  limited L hlim hopen fuel hfuel := by
    have hpos := hlimit L hlim
    obtain ⟨last, rfl⟩ : ∃ k, L = k + 1 := ⟨L - 1, by omega⟩
    refine h.runFrames_eq hparts hshown (fun j hj => hopen j (by omega)) (fun j hj L' hlim' => ?_)
      (hopen last (by omega)) ?_ hfuel
    · rw [hlim] at hlim'
      cases hlim'
      omega
    · simp [outcomeAfter, hlim]
  endless hlim hopen fuel := by
    refine runFrames_of_open fun i _ => ?_
    obtain ⟨status, hstatus, -, hverdict⟩ := h.frameAt hparts hshown fun j _ => hopen j
    obtain rfl : .pending = status := Option.some.inj ((hopen i).symm.trans hstatus)
    rw [outcomeAfter_pending (by simp [hlim])] at hverdict
    exact Option.map_eq_none_iff.1 hverdict
  files fuel outcome q hrun := by
    obtain ⟨m, events, hnone, hstop, rfl⟩ := exists_verdict_of_runFrames hrun
    have hopen := h.statusAt_eq_pending hparts hshown hnone
    obtain ⟨status, -, hcaptured, hverdict⟩ := h.frameAt hparts hshown hopen
    rw [hstop] at hverdict
    obtain ⟨l, hframes, hentries⟩ := hcaptured.frames
    refine ⟨m + 1, l, framesOf_outcomeAfter hverdict.symm, ?_, hframes,
      hframes.filterMap_captured?⟩
    rw [← hentries]
    exact World.entries_noteAll _ events

end Playback

end DemoReel
