import DemoReel.Proofs.Playback.Capture
import DemoReel.Proofs.Playback.Offline
import DemoReel.Proofs.Playback.Picture

/-!
# Frames that are tried again

A frame that was captured halfway: its picture could not be presented, or not be written to its
file. Its drain is not undone, and need not be: a drain at the same time has nothing left to do and
tells the same. Main statement: the next frame draws the same picture for the same file, carries out
no command, and tells what the first try would have told (`Reached.retry`).
-/

namespace DemoReel

variable {π σ : Type}

/-! ## The same drain twice -/

/-- A drain that has not come to the end of the reel has stopped in front of what is left. -/
theorem Stops.of_open {time : Int} {tried : List Attempt} {left : List Command}
    {status : DrainStatus} (h : Stops time tried left (.ok status)) (hopen : status ≠ .ended) :
    (∀ c ∈ left.head?, time < c.due) ∧
      status = if left = [] then DrainStatus.exhausted else .pending := by
  cases h with
  | pending first early _ =>
    subst first
    exact ⟨by simpa using early, by simp⟩
  | exhausted empty _ =>
    subst empty
    exact ⟨by simp, by simp⟩
  | ended => exact absurd rfl hopen

/-- Where a drain has stopped before the end of the reel, another at the same time stops at once,
for the same reason. -/
theorem Stops.again {time : Int} {tried tried' : List Attempt} {left left' : List Command}
    {status status' : DrainStatus} (h : Stops time tried left (.ok status))
    (hopen : status ≠ .ended) (h' : Stops time tried' left' (.ok status'))
    (hsplit : left = tried'.map (·.command) ++ left')
    (hdue : ∀ x ∈ tried', x.command.due ≤ time) : tried' = [] ∧ status' = status := by
  obtain ⟨hearly, hstatus⟩ := h.of_open hopen
  have hnone : tried' = [] := by
    cases tried' with
    | nil => rfl
    | cons x rest =>
      have hx : time < x.command.due := hearly x.command (by simp [hsplit])
      exact absurd (hdue x List.mem_cons_self) (Int.not_le.2 hx)
  subst hnone
  have hopen' : status' ≠ .ended := by
    rintro rfl
    cases h' with
    | ended split _ _ => simp at split
  obtain rfl : left = left' := by simpa using hsplit
  exact ⟨rfl, (h'.of_open hopen').2.trans hstatus.symm⟩

theorem Carried.exists_withJournal {t : CommandTable π σ} {assets : Assets} {st st' : Stage π σ}
    (h : Carried t assets st [] st') : ∃ journal, st' = st.withJournal journal := by
  cases h with
  | done _ journal => exact ⟨journal, rfl⟩

namespace Scheduler

/-- A drain at the time of the last one carries out nothing and tells the same, whatever has become
of the parts, the effects and the world in the meantime. -/
theorem Drains.again {time : Int} {cs left : List Command} {s s' r : Scheduler π σ} {w w' : World σ}
    {attempts : List Attempt} {status : DrainStatus}
    (h : Drains time cs s w attempts status left s' w') (hreader : r.reader = s'.reader)
    (hended : r.ended = s'.ended) (v : World σ) :
    ∃ r' journal, r.course time v = (⟨[], .ok status⟩, r', v.withJournal journal) ∧
      r'.registry = r.registry ∧ r'.timeline = r.timeline := by
  cases hover : r.ended with
  | true =>
    have hstatus : status = .ended := by
      have hmark := h.ended
      rw [← hended, hover] at hmark
      simpa using hmark.symm
    refine ⟨r, v.journal, ?_, rfl, rfl⟩
    rw [hstatus]
    simp [Scheduler.course, hover, World.withJournal]
  | false =>
    have hopen : status ≠ .ended := by
      have hmark := h.ended
      rw [← hended, hover] at hmark
      simpa using hmark.symm
    have hstarted : s.ended = false := by
      cases hs : s.ended with
      | true => exact absurd (h.afterEnd hs).1 hopen
      | false => rfl
    obtain ⟨reader, hr, hholds⟩ := h.remains
    have hleft : r.Left left := ⟨reader, hreader.trans hr, hholds⟩
    obtain ⟨attempts', status', left', r', v', h'⟩ := hleft.drains time v
    have hfirst := h.beforeEnd hstarted
    have hsecond := h'.beforeEnd hover
    obtain ⟨rfl, rfl⟩ := hfirst.stops.again hopen hsecond.stops hsecond.split hsecond.due
    obtain ⟨journal, hstage⟩ := h'.carried.exists_withJournal
    obtain ⟨hregistry, htimeline, hworld⟩ := Stage.mk.inj hstage
    refine ⟨r', journal, ?_, hregistry, htimeline⟩
    rw [h'.course]
    exact congrArg _ (congrArg _ hworld)

end Scheduler

/-! ## One try -/

/-- A try at a frame whose picture is `ready`: the picture is presented and then written to `path`,
and the first of both that fails is the error of the frame. If none does, the frame says what its
drain has told. -/
inductive Tries [Graphics σ] (status : DrainStatus) (path : Path) (ready : World σ) :
    Except RunError FrameStatus → World σ → Prop where
  | unpresented {e : GraphicsError} (why : (ready.call .present).1 = .error e) :
      Tries status path ready (.error (.graphics e)) (ready.after .present)
  | unsaved {e : GraphicsError} (presented : (ready.call .present).1 = .ok ())
      (why : ((ready.after .present).call (.capture path)).1 = .error e) :
      Tries status path ready (.error (.graphics e))
        ((ready.after .present).after (.capture path))
  | captured (presented : (ready.call .present).1 = .ok ())
      (saved : ((ready.after .present).call (.capture path)).1 = .ok ()) :
      Tries status path ready (.ok (.ofDrain status))
        ((ready.after .present).after (.capture path))

namespace Playback

section

variable {dir : Path} {fps : Float32}

theorem deliver_of_capture [Graphics σ] {p : Playback π σ} (h : p.player.mode = .capture dir fps)
    (status : DrainStatus) :
    ∃ result world, Tries status (frameFile dir p.player.frameIndex) p.world result world ∧
      p.deliver status = (result,
        { p with
          player := { p.player with frameIndex := p.player.frameIndex + counted result }
          world }) := by
  let write : Call := .capture (frameFile dir p.player.frameIndex)
  have hsave (world : World σ) : save { p with world } =
      ((world.call write).1, { p with world := world.after write }) := by
    simp only [save, h]
    rfl
  cases hpresent : p.world.call .present with
  | mk reply world =>
    obtain rfl : p.world.after .present = world := congrArg Prod.snd hpresent
    have hreply : (p.world.call .present).1 = reply := congrArg Prod.fst hpresent
    cases reply with
    | error e =>
      refine ⟨_, _, .unpresented hreply, ?_⟩
      simp only [deliver, hpresent]
      rfl
    | ok _ =>
      cases hsaved : ((p.world.after .present).call write).1 with
      | error e =>
        refine ⟨_, _, .unsaved hreply hsaved, ?_⟩
        simp only [deliver, hpresent, hsave, hsaved]
        rfl
      | ok _ =>
        refine ⟨_, _, .captured hreply hsaved, ?_⟩
        simp only [deliver, hpresent, hsave, hsaved]
        rfl

/-- A captured frame of scenes, from its drain on: the picture that is drawn, what comes of it, and
what is left, of which the same picture could be drawn again. -/
theorem step_of_course [Graphics σ] {p : Playback Scene σ} (h : p.player.mode = .capture dir fps)
    {reading : Int64} {attempts : List Attempt} {status : DrainStatus} {s : Scheduler Scene σ}
    {w : World σ}
    (hcourse : p.scheduler.course (p.timeAt reading) p.world = (⟨attempts, .ok status⟩, s, w)) :
    ∃ timeline events result world,
      Tries status (frameFile dir p.player.frameIndex)
        (((s.picture (p.timeAt reading)).foldl World.after w).noteAll events) result world ∧
      timeline.shownQuads (p.timeAt reading) = s.timeline.shownQuads (p.timeAt reading) ∧
      p.step reading = (result,
        ⟨{ p.player with
            lastTime := p.timeAt reading, frameIndex := p.player.frameIndex + counted result },
          { s with timeline }, world⟩) := by
  have hdrain : p.scheduler.drain (p.timeAt reading) p.world =
      (.ok ⟨attempts.map Attempt.record, status⟩, s, w) := by
    simp [Scheduler.drain, hcourse, Course.report, Except.map]
  obtain ⟨timeline, events, hcompose, hshown⟩ := exists_compose_scenes (p.timeAt reading)
    (attempts.map Attempt.record).length { p with scheduler := s, world := w }
  rw [step_of_drain hdrain, hcompose]
  obtain ⟨result, world, htries, hdeliver⟩ := deliver_of_capture (p :=
    ⟨{ p.player with lastTime := p.timeAt reading }, { s with timeline },
      ((s.picture (p.timeAt reading)).foldl World.after w).noteAll events⟩) h status
  exact ⟨timeline, events, result, world, htries, hshown, hdeliver⟩

end

/-! ## Reachable states -/

section

variable [Graphics σ] [Part π σ]

/-- Playback of a script that is a text can come to this state. Beside what the player itself does,
anything may be done in between to its mode and its count, the table, the clock, the parts, the
effects and the world. -/
inductive Reached : Playback π σ → Prop where
  | opened (content : String) (p : Playback π σ) :
      Reached (.ofSession p.player (.opened content p.scheduler p.world))
  | order {p : Playback π σ} (h : Reached p) (order : Order) :
      Reached (.ofSession p.player (Session.perform ⟨p.scheduler, p.world, []⟩ order))
  | frame {p : Playback π σ} (h : Reached p) (reading : Int64) : Reached (p.step reading).2
  | outside {p : Playback π σ} (h : Reached p) (player : Player) (table : CommandTable π σ)
      (clock : Clock Int64) (registry : Registry π) (timeline : Timeline) (world : World σ) :
      Reached ⟨player, { p.scheduler with table, clock, registry, timeline }, world⟩

omit [Graphics σ] [Part π σ] in
/-- A script that is a text can be opened again, whatever has become of it. -/
theorem restart_of_text {ss : Session π σ} {content : String}
    (h : ss.scheduler.source = some (.text content)) (reading : Int64) :
    (ss.perform (.restart reading)).scheduler =
      { ss.scheduler with
        registry := ss.scheduler.registry.stopAll
        timeline := ss.scheduler.timeline.clear
        reader := some (.ofLines ((Text.lines content).map some))
        ended := false } := by
  simp [Session.perform, Session.reopened, Scheduler.restart, h, Script.Source.reader]

/-- A script that is a text is never lost, and can always be read on. -/
theorem Reached.exists_left {p : Playback π σ} (h : Reached p) :
    (∃ content, p.scheduler.source = some (.text content)) ∧ ∃ cs, p.scheduler.Left cs := by
  induction h with
  | opened content p => exact ⟨⟨content, rfl⟩, _, _, rfl, Script.Reader.holds_text content⟩
  | @order p _ order ih =>
    obtain ⟨⟨content, hsource⟩, cs, hleft⟩ := ih
    cases order with
    | drain time =>
      obtain ⟨attempts, status, left, s, w, hdrains⟩ := hleft.drains time p.world
      rw [Session.perform_drain_of_course hdrains.course]
      exact ⟨⟨content, hdrains.setting.source.trans hsource⟩, left, hdrains.remains⟩
    | seekForward ms => exact ⟨⟨content, hsource⟩, cs, hleft⟩
    | seekBack ms reading =>
      have hmoved : (Session.moved ⟨p.scheduler, p.world, []⟩ ms).scheduler.source =
        some (.text content) := hsource
      rw [Session.perform_seekBack, ofSession, restart_of_text hmoved]
      exact ⟨⟨content, hsource⟩, _, _, rfl, Script.Reader.holds_text content⟩
    | restart reading =>
      have hopen : (Session.mk p.scheduler p.world []).scheduler.source = some (.text content) :=
        hsource
      rw [ofSession, restart_of_text hopen]
      exact ⟨⟨content, hsource⟩, _, _, rfl, Script.Reader.holds_text content⟩
  | @frame p _ reading ih =>
    obtain ⟨⟨content, hsource⟩, cs, hleft⟩ := ih
    obtain ⟨attempts, status, left, s, w, hdrains⟩ := hleft.drains (p.timeAt reading) p.world
    obtain ⟨frameIndex, lastTime, timeline, world, hstep⟩ := exists_step hdrains.drain_eq
    rw [hstep]
    exact ⟨⟨content, hdrains.setting.source.trans hsource⟩, left, hdrains.remains⟩
  | outside _ _ _ _ _ _ _ ih => exact ih

end

/-! ## Two tries -/

section

variable [Graphics σ] {p : Playback Scene σ} {dir : Path} {fps : Float32}

/-- A frame at the time of a drain that has left the scheduler `s`, where nothing has happened since
but that pictures were drawn. -/
theorem step_again {time : Int} {cs left : List Command} {s₀ s : Scheduler Scene σ}
    {w₀ w : World σ} {attempts : List Attempt} {status : DrainStatus}
    (h : Scheduler.Drains time cs s₀ w₀ attempts status left s w)
    (hmode : p.player.mode = .capture dir fps) (htime : frameTime p.player.frameIndex fps = time)
    {timeline : Timeline} (hsame : p.scheduler = { s with timeline })
    (hshown : timeline.shownQuads time = s.timeline.shownQuads time) (reading : Int64) :
    (p.scheduler.course (p.timeAt reading) p.world).1.attempts = [] ∧
      (∃ journal events, Tries status (frameFile dir p.player.frameIndex)
        (((s.picture time).foldl World.after (p.world.withJournal journal)).noteAll events)
        (p.step reading).1 (p.step reading).2.world) ∧
      (p.step reading).2.player.frameIndex =
        p.player.frameIndex + counted (p.step reading).1 := by
  have hreader : p.scheduler.reader = s.reader := by rw [hsame]
  have hended : p.scheduler.ended = s.ended := by rw [hsame]
  have hat : p.timeAt reading = time := (timeAt_of_capture hmode reading).trans htime
  obtain ⟨r, journal, hcourse, hparts, heffects⟩ := h.again hreader hended p.world
  have hpicture : r.picture time = s.picture time := by
    rw [Scheduler.picture, hparts, heffects, hsame, hshown, Scheduler.picture]
  obtain ⟨timeline', events, result, world, htries, -, hstep⟩ :=
    step_of_course hmode (hat ▸ hcourse)
  rw [hat, hpicture] at htries
  rw [hat, hcourse, hstep]
  exact ⟨rfl, ⟨journal, events, htries⟩, rfl⟩

end

/-- A frame whose picture could not be presented or written is not counted. The next frame has no
command to carry out; it makes the same calls for the same file, and if nothing fails any more it is
counted and says what the first try would have said. The world may be another by then. -/
theorem Reached.retry [Graphics σ] {p : Playback Scene σ} (h : Reached p) {dir : Path}
    {fps : Float32} (hmode : p.player.mode = .capture dir fps) {reading : Int64} {e : GraphicsError}
    (hfailed : (p.step reading).1 = .error (.graphics e)) :
    let time := frameTime p.player.frameIndex fps
    let path := frameFile dir p.player.frameIndex
    let failed := (p.step reading).2
    failed.player.frameIndex = p.player.frameIndex ∧
    ∃ attempts status s w, p.scheduler.course time p.world = (⟨attempts, .ok status⟩, s, w) ∧
      (∃ events, Tries status path (((s.picture time).foldl World.after w).noteAll events)
        (p.step reading).1 failed.world) ∧
      ∀ (reading' : Int64) (v : World σ),
        let again : Playback Scene σ := { failed with world := v }
        (again.scheduler.course (again.timeAt reading') v).1.attempts = [] ∧
        (∃ journal events, Tries status path
          (((s.picture time).foldl World.after (v.withJournal journal)).noteAll events)
          (again.step reading').1 (again.step reading').2.world) ∧
        (again.step reading').2.player.frameIndex =
          p.player.frameIndex + counted (again.step reading').1 := by
  intro time path failed
  obtain ⟨-, cs, hleft⟩ := h.exists_left
  obtain ⟨attempts, status, left, s, w, hdrains⟩ := hleft.drains time p.world
  have htime : p.timeAt reading = time := timeAt_of_capture hmode reading
  have hcourse := hdrains.course
  rw [← htime] at hcourse
  obtain ⟨timeline, events, result, world, htries, hshown, hstep⟩ := step_of_course hmode hcourse
  rw [htime] at htries hshown
  obtain rfl : result = .error (.graphics e) := by
    rw [hstep] at hfailed
    exact hfailed
  have hleft : failed =
    ⟨{ p.player with lastTime := p.timeAt reading }, { s with timeline }, world⟩ :=
    congrArg Prod.snd hstep
  have hresult : (p.step reading).1 = .error (.graphics e) := congrArg Prod.fst hstep
  rw [hleft, hresult]
  refine ⟨rfl, attempts, status, s, w, hdrains.course, ⟨events, htries⟩, fun reading' v => ?_⟩
  let again : Playback Scene σ :=
    ⟨{ p.player with lastTime := p.timeAt reading }, { s with timeline }, v⟩
  have hagain : again.player.mode = .capture dir fps := hmode
  exact step_again hdrains hagain rfl rfl hshown reading'

/-- A screen that is lost in the last frame of a reel and found again for the second try. The effect
of that frame is over and pruned by then, and the end of the reel has been read. -/
theorem Reached.retry_lost_screen :
    let part : Enrolled Scene := ⟨.pulse .white 30, ⟨.offscreen 2, true⟩, .idle⟩
    let s : Scheduler Scene (Recorder Empty Rehearsal) :=
      { table := .standard
        registry := ⟨NameMap.empty.insert "a" part⟩
        timeline := { autoPrune := true } }
    let w : World (Recorder Empty Rehearsal) :=
      { gfx := { inner := {}, presentFault := some "lost" } }
    let p : Playback Scene (Recorder Empty Rehearsal) :=
      .ofSession { mode := .capture ⟨"frames"⟩ 25, frameIndex := 1 }
        (.opened "0 START_PART a\n0 FX neg 0 40\n0 FX neg 40 5\n20 END\n" s w)
    let failed := (p.step 0).2
    let mended : World (Recorder Empty Rehearsal) :=
      { failed.world with gfx := { failed.world.gfx with presentFault := none } }
    let again : Playback Scene (Recorder Empty Rehearsal) := { failed with world := mended }
    Reached p ∧ p.player.mode = .capture ⟨"frames"⟩ 25 ∧
      (p.step 0).1 = .error (.graphics (.present "lost")) ∧
      failed.scheduler.timeline.ids = [1] ∧
      failed.player.frameIndex = p.player.frameIndex ∧
      (again.scheduler.course (again.timeAt 0) mended).1.attempts = [] ∧
      (again.step 0).1 = .ok .finished ∧ (again.step 0).2.player.frameIndex = 2 := by
  intro part s w p failed mended again
  have hreached : Reached p := .opened _ ⟨{ mode := .capture ⟨"frames"⟩ 25, frameIndex := 1 }, s, w⟩
  have hmode : p.player.mode = .capture ⟨"frames"⟩ 25 := rfl
  have hfailed : (p.step 0).1 = .error (.graphics (.present "lost")) := by decide +kernel
  obtain ⟨hindex, _, _, _, _, -, -, hagain⟩ := Reached.retry hreached hmode hfailed
  obtain ⟨hattempts, -, hcounted⟩ := hagain 0 mended
  have hresult : (again.step 0).1 = .ok .finished := by decide +kernel
  refine ⟨hreached, hmode, hfailed, by decide +kernel, hindex, hattempts, hresult, ?_⟩
  rw [hcounted, hresult]
  rfl

end Playback

end DemoReel
