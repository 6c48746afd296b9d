import DemoReel.Graphics.Rehearsal
import DemoReel.Part.Scene
import DemoReel.Proofs.Clock.Stopwatch
import DemoReel.Proofs.Part.Since
import DemoReel.Proofs.Playback.Frame
import DemoReel.Proofs.Playback.Remaining
import DemoReel.Proofs.Playback.Run

/-!
# Live playback

Frames that are shown while the clock goes on and a viewer pauses and seeks. The clock counts in 64
bits and nothing stops it at their end: a move forward can take it past the last moment of all
(`Live.overrun`), where it starts again at the first. Main statement: exactly as long as no move
does so while a part is running, no part runs since a time that is yet to come, and no part is told
a negative time since its start (`Live.timely_iff`).
-/

namespace DemoReel

open Number Number.Wrapping

variable {π σ : Type}

/-! ## What a drain starts -/

theorem CommandTable.startedBy_dispatch [Graphics σ] {now time : Int} (hpos : 0 ≤ time)
    (htime : time ≤ now) (c : Command) (assets : Assets) (st : Stage π σ)
    (h : st.registry.StartedBy now) :
    (standard.dispatch c assets time st).2.registry.StartedBy now := by
  rw [dispatch_eq_carryOut]
  cases c.deed with
  | refuse why => exact h
  | finish => exact h
  | ask request =>
    simp only [Deed.carryOut, Handler.updating]
    split
    · exact h
    · next hu => exact h.on hpos htime hu
  | load c =>
    simp only [Deed.carryOut, Handler.effect]
    split <;> exact h

theorem Carried.startedBy [Graphics σ] {now : Int} {assets : Assets} {st st' : Stage π σ}
    {tried : List (Int × Attempt)} (h : Carried .standard assets st tried st')
    (htimes : ∀ x ∈ tried, 0 ≤ x.1 ∧ x.1 ≤ now) (hst : st.registry.StartedBy now) :
    st'.registry.StartedBy now := by
  induction h with
  | done => exact hst
  | @next st st₁ st₂ time c result tried j hnow later ih =>
    obtain ⟨⟨hpos, htime⟩, hlater⟩ := List.forall_mem_cons.1 htimes
    have hst₁ := CommandTable.startedBy_dispatch hpos htime c assets (st.withJournal j) hst
    rw [hnow] at hst₁
    exact ih hlater hst₁

/-! ## What happens to live playback -/

/-- What happens while a reel plays live. -/
inductive Move where
  /-- The source of the clock moves on. -/
  | tick (ms : Int64)
  | frame
  | togglePause
  | seekForward (ms : Int64)
  | seekBack (ms : Int64)
  deriving DecidableEq, Repr

/-- By how much a move goes, in its own direction. -/
def Move.amount : Move → Int64
  | .tick ms | .seekForward ms | .seekBack ms => ms
  | .frame | .togglePause => 0

/-- Playback, and what the source of its clock reads. -/
structure Live (π σ : Type) where
  reading : Int64
  playback : Playback π σ

namespace Live

def clock (l : Live π σ) : Clock Int64 := l.playback.scheduler.clock

def registry (l : Live π σ) : Registry π := l.playback.scheduler.registry

/-- What the clock shows. -/
def now (l : Live π σ) : Int := l.playback.scheduler.now l.reading

/-- Carries out a request of the viewer. -/
def obey (l : Live π σ) (c : Control) : Live π σ :=
  let (_, scheduler, world) := l.playback.scheduler.obey l.reading c l.playback.world
  { l with playback := { l.playback with scheduler, world } }

/-- A move is made as a whole; none comes in the middle of another. -/
def move [Graphics σ] [Part π σ] (l : Live π σ) : Move → Live π σ
  | .tick ms => { l with reading := l.reading + ms }
  | .frame => { l with playback := (l.playback.step l.reading).2 }
  | .togglePause => l.obey .togglePause
  | .seekForward ms => l.obey (.seekForward ms)
  | .seekBack ms => l.obey (.seekBack ms)

def run [Graphics σ] [Part π σ] (l : Live π σ) (moves : List Move) : Live π σ := moves.foldl move l

/-- By how much a move takes the clock forward. -/
def advance (l : Live π σ) : Move → Int64
  | .tick ms => if l.clock.isRunning then ms else 0
  | .seekForward ms => ms
  | .frame | .togglePause | .seekBack _ => 0

theorem elapsed_tick (l : Live π σ) (ms : Int64) :
    l.clock.elapsed (l.reading + ms) = l.clock.elapsed l.reading + l.advance (.tick ms) := by
  unfold advance
  cases l.clock with
  | running origin => exact add_sub_right_comm l.reading ms origin
  | paused value => exact (add_zero value).symm
  | reset value => exact (add_zero value).symm

/-- The move takes the clock past the last moment of all, and a part is running. -/
def overrun (l : Live π σ) (m : Move) : Bool :=
  !l.registry.runningNames.isEmpty && maxInt64 < l.now + (l.advance m).toInt

/-- One of the moves is an overrun. -/
def overruns [Graphics σ] [Part π σ] (l : Live π σ) : List Move → Bool
  | [] => false
  | m :: moves => l.overrun m || (l.move m).overruns moves

/-- Live playback of the text `content` in which no part runs since a time that is yet to come. -/
structure Sound [Graphics σ] (content : String) (l : Live π σ) : Prop where
  live : ∃ fps, l.playback.player.mode = .live fps
  table : l.playback.scheduler.table = .standard
  source : l.playback.scheduler.source = some (.text content)
  left : ∃ cs, l.playback.scheduler.Left cs ∧ ∀ c ∈ cs, 0 ≤ c.due
  since : l.registry.StartedBy l.now

namespace Sound

variable [Graphics σ] {content : String}

section

variable {l : Live π σ}

/-- Whatever moves the clock forward or lets it be leaves playback sound, as long as the clock does
not wrap around while a part is running. -/
theorem withClock (h : l.Sound content) {clock : Clock Int64} {reading ms : Int64} (hms : 0 ≤ ms)
    (hclock : clock.elapsed reading = l.clock.elapsed l.reading + ms)
    (hfits : l.registry.runningNames = [] ∨ l.now + ms.toInt ≤ maxInt64) :
    Sound content { reading, playback :=
      { l.playback with scheduler := { l.playback.scheduler with clock } } } := by
  refine ⟨h.live, h.table, h.source, h.left, ?_⟩
  show l.registry.StartedBy (clock.elapsed reading).toInt
  rcases hfits with hidle | hle
  · exact .of_runningNames hidle _
  · have hexact : (l.clock.elapsed l.reading + ms).toInt = l.now + ms.toInt :=
      toInt_add_of_le hms hle
    rw [hclock, hexact]
    exact h.since.mono (Int.le_add_of_nonneg_right (Int64.le_iff_toInt_le.1 hms))

/-- Going back stops all parts. -/
theorem seekBack (h : l.Sound content) (ms : Int64) : Sound content (l.obey (.seekBack ms)) := by
  have hseek : l.playback.scheduler.seekBack ms l.reading l.playback.world = (.ok (),
      { l.playback.scheduler with
        clock := l.playback.scheduler.clock.seekBack ms
        registry := l.playback.scheduler.registry.stopAll
        timeline := l.playback.scheduler.timeline.clear
        reader := some (.ofLines ((Text.lines content).map some))
        ended := false }, l.playback.world.note (.scriptRestarted
          ((l.playback.scheduler.clock.seekBack ms).elapsed l.reading).toInt)) := by
    simp [Scheduler.seekBack, Scheduler.restart, h.source, Script.Source.reader, Scheduler.now]
  simp only [obey, Scheduler.obey, hseek]
  exact ⟨h.live, h.table, h.source, ⟨_, ⟨_, rfl, Script.Reader.holds_text content⟩,
    fun _ => Script.due_nonneg_of_mem_commandsOf⟩, .stopAll _ _⟩

end

variable [Part π σ] {l : Live (Diary π) σ}

/-- A frame drains at the time of the clock, and gives every part that runs then one frame. -/
theorem frame (h : l.Sound content) :
    ∃ report s w, l.playback.scheduler.drain l.now l.playback.world = (.ok report, s, w) ∧
      s.registry.StartedBy l.now ∧
      (l.move .frame).registry.pages = s.registry.nextPages l.now ∧
      Sound content (l.move .frame) := by
  -- A text can always be drained, so the frame is drawn at the time the clock shows.
  obtain ⟨cs, hleft, hdues⟩ := h.left
  obtain ⟨attempts, status, left, s, w, hdrains⟩ := hleft.drains l.now l.playback.world
  obtain ⟨fps, hmode⟩ := h.live
  have htime : l.playback.timeAt l.reading = l.now := by
    rw [Playback.timeAt, hmode]
    rfl
  have hdrain := hdrains.drain_eq
  rw [← htime] at hdrain
  obtain ⟨frameIndex, lastTime, timeline, world, hplayback⟩ := Playback.exists_step hdrain
  rw [htime] at hplayback
  obtain ⟨rfl, hdue⟩ := hdrains.split
  have hstarted : s.registry.StartedBy l.now := by
    have hcarried := hdrains.carried
    rw [h.table] at hcarried
    refine hcarried.startedBy (fun x hx => ?_) h.since
    obtain ⟨y, hy, rfl⟩ := List.mem_map.1 hx
    -- No command is due before the start of the script, so none is carried out before it.
    have hnonneg := hdues y.command (List.mem_append_left _ (List.mem_map_of_mem hy))
    exact ⟨Int.le_trans hnonneg (hdue y hy), Int.le_refl l.now⟩
  refine ⟨_, s, w, hdrains.drain_eq, hstarted, ?_, ?_⟩
  · simp only [registry, move, hplayback]
    exact Registry.pages_render s.registry l.now w.backdrop
  · simp only [move, hplayback]
    refine ⟨⟨fps, hmode⟩, hdrains.setting.table.trans h.table,
      hdrains.setting.source.trans h.source,
      ⟨left, hdrains.remains, fun c hc => hdues c (List.mem_append_right _ hc)⟩, ?_⟩
    have hnow : (s.clock.elapsed l.reading).toInt = l.now := by
      rw [hdrains.setting.clock]
      rfl
    show Registry.StartedBy (s.clock.elapsed l.reading).toInt _
    rw [hnow]
    exact hstarted.render l.now w.backdrop

theorem move (h : l.Sound content) {m : Move} (hm : 0 ≤ m.amount) (hfits : l.overrun m = false) :
    Sound content (l.move m) := by
  have hroom : l.registry.runningNames = [] ∨ l.now + (l.advance m).toInt ≤ maxInt64 := by
    simpa [overrun, or_iff_not_imp_left] using hfits
  cases m with
  | tick ms =>
    have hadvance : 0 ≤ l.advance (.tick ms) := by
      show 0 ≤ if l.clock.isRunning then ms else 0
      split
      · exact hm
      · exact Int64.le_refl 0
    exact h.withClock hadvance (elapsed_tick l ms) hroom
  | frame =>
    obtain ⟨-, -, -, -, -, -, hframe⟩ := h.frame
    exact hframe
  | togglePause =>
    exact h.withClock (Int64.le_refl 0)
      ((Clock.elapsed_toggle l.reading l.clock).trans (add_zero _).symm) hroom
  | seekForward ms =>
    exact h.withClock hm (Clock.elapsed_seekForward l.reading ms l.clock) hroom
  | seekBack ms => exact h.seekBack ms

end Sound

/-- No part has been running since a time that is yet to come, and the frames that the next drawing
gives to parts tell the time of its drain, and a time since the start of the part that is not
negative. -/
structure Timely [Graphics σ] [Part π σ] (l : Live (Diary π) σ) : Prop where
  since : ∀ name e since, l.registry.get? name = some e → e.status = .running since → since ≤ l.now
  frames : ∃ report s w, l.playback.scheduler.drain l.now l.playback.world = (.ok report, s, w) ∧
    (l.move .frame).registry.pages = s.registry.nextPages l.now ∧
    ∀ name e, s.registry.get? name = some e →
      ∀ frame ∈ e.status.handed l.now, frame.time = l.now ∧ 0 ≤ frame.elapsed

section

variable [Graphics σ] [Part π σ] {content : String} {l : Live (Diary π) σ}

theorem Sound.timely (h : l.Sound content) : l.Timely := by
  obtain ⟨report, s, w, hdrain, hstarted, hpages, -⟩ := h.frame
  refine ⟨fun name e since he hsince => (h.since.get? he since hsince).2, report, s, w, hdrain,
    hpages, fun name e he frame hframe => ?_⟩
  cases hstatus : e.status with
  | idle => simp [hstatus, PartStatus.handed] at hframe
  | running since =>
    obtain ⟨hpos, hle⟩ := hstarted.get? he since hstatus
    have hmax : l.now ≤ maxInt64 := toInt_le_maxInt64 _
    simp only [hstatus, PartStatus.handed, List.mem_singleton] at hframe
    subst hframe
    refine ⟨rfl, ?_⟩
    show 0 ≤ wrapInt64 (l.now - since)
    rw [wrapInt64_eq_self (by unfold minInt64; omega) (by omega)]
    omega

/-- After an overrun the clock shows a time before the start of the script, and the parts that run
were started after that. -/
theorem Sound.not_timely (h : l.Sound content) {m : Move} (hover : l.overrun m = true) :
    ¬ (l.move m).Timely := by
  obtain ⟨hrunning, hpast⟩ : l.registry.runningNames ≠ [] ∧
      maxInt64 < l.now + (l.advance m).toInt := by simpa [overrun] using hover
  obtain ⟨name, hname⟩ := List.exists_mem_of_ne_nil _ hrunning
  obtain ⟨e, he, hstatus⟩ := (Option.any_eq_true _ _).1 (Registry.mem_runningNames_iff.1 hname)
  obtain ⟨since, hsince⟩ : ∃ since, e.status = .running since := by
    cases hs : e.status with
    | idle => simp [hs, PartStatus.isRunning] at hstatus
    | running since => exact ⟨since, rfl⟩
  have hpos := (h.since.get? he since hsince).1
  have hnow : l.now ≤ maxInt64 := toInt_le_maxInt64 _
  -- What the clock shows after the move, and that the parts are the same as before.
  have hmoved : (l.move m).now < 0 ∧ (l.move m).registry = l.registry := by
    cases m with
    | tick ms =>
      refine ⟨?_, rfl⟩
      show (l.clock.elapsed (l.reading + ms)).toInt < 0
      rw [elapsed_tick]
      exact toInt_add_neg hpast
    | seekForward ms =>
      refine ⟨?_, rfl⟩
      show ((l.clock.seekForward ms).elapsed l.reading).toInt < 0
      rw [Clock.elapsed_seekForward]
      exact toInt_add_neg hpast
    | frame | togglePause | seekBack ms =>
      rw [advance, Int64.toInt_zero] at hpast
      omega
  intro htimely
  have hle := htimely.since name e since (hmoved.2 ▸ he) hsince
  omega

theorem Sound.forall_timely_iff (h : l.Sound content) {moves : List Move}
    (hmoves : ∀ m ∈ moves, 0 ≤ m.amount) :
    (∀ front, front <+: moves → (l.run front).Timely) ↔ l.overruns moves = false := by
  induction moves generalizing l with
  | nil =>
    refine ⟨fun _ => rfl, fun _ front hfront => ?_⟩
    rw [List.prefix_nil.1 hfront]
    exact h.timely
  | cons m moves ih =>
    obtain ⟨hm, hlater⟩ := List.forall_mem_cons.1 hmoves
    cases hover : l.overrun m with
    | true =>
      refine iff_of_false (fun htimely => h.not_timely hover ?_) (by simp [overruns, hover])
      exact htimely [m] (List.prefix_append [m] moves)
    | false =>
      rw [overruns, hover, Bool.false_or, ← ih (h.move hm hover) hlater]
      refine ⟨fun htimely front hfront => ?_, fun htimely front hfront => ?_⟩
      · exact htimely (m :: front) (List.cons_prefix_cons.2 ⟨rfl, hfront⟩)
      · rcases List.prefix_cons_iff.1 hfront with rfl | ⟨rest, rfl, hrest⟩
        · exact h.timely
        · exact htimely rest hrest

end

/-- Live playback of a script that has just been opened. -/
def opened (content : String) (s : Scheduler π σ) (w : World σ) (player : Player) (fps : Float32)
    (reading : Int64) : Live π σ :=
  ⟨reading, .ofSession { player with mode := .live fps } (.opened content s w)⟩

/-- However ticks of the clock, frames, pauses and seeks follow each other: no part ever runs since
a time that is yet to come, nor is told a negative time since its start, exactly if no move takes
the clock past the last moment of all while a part is running. -/
theorem timely_iff [Graphics σ] [Part π σ] (content : String) (s : Scheduler (Diary π) σ)
    (w : World σ) (player : Player) (fps : Float32) (reading : Int64) (hs : s.table = .standard)
    (hidle : s.registry.runningNames = []) {moves : List Move}
    (hmoves : ∀ m ∈ moves, 0 ≤ m.amount) :
    let l := opened content s w player fps reading
    (∀ front, front <+: moves → (l.run front).Timely) ↔ l.overruns moves = false := by
  intro l
  have hopened : Sound content l :=
    ⟨⟨fps, rfl⟩, hs, rfl, ⟨_, ⟨_, rfl, Script.Reader.holds_text content⟩,
      fun _ => Script.due_nonneg_of_mem_commandsOf⟩, .of_runningNames hidle _⟩
  exact hopened.forall_timely_iff hmoves

/-- A scheduler with one part, which keeps the frames it is given. -/
def oneDiary : Scheduler (Diary Scene) Rehearsal :=
  { table := .standard
    registry := ⟨NameMap.empty.insert "a" ⟨⟨.solid .white, []⟩, {}, .idle⟩⟩ }

/-- A part that is started and renamed, and a viewer who goes back behind its start. -/
theorem timely_rename :
    let l := opened "0 START_PART a\n18 RENAME_PART a b\n" oneDiary ⟨{}, {}, #[]⟩
      { mode := .live 25 } 25 0
    let moves : List Move :=
      [.togglePause, .tick 20, .frame, .tick 5, .frame, .seekBack 15, .frame, .seekForward 3]
    oneDiary.table = .standard ∧ oneDiary.registry.runningNames = [] ∧
      (∀ m ∈ moves, 0 ≤ m.amount) ∧ ∀ front, front <+: moves → (l.run front).Timely := by
  intro l moves
  have hmoves : ∀ m ∈ moves, 0 ≤ m.amount := by decide
  have hover : l.overruns moves = false := by decide +kernel
  exact ⟨rfl, rfl, hmoves, (timely_iff _ oneDiary _ _ 25 0 rfl rfl hmoves).2 hover⟩

/-- A clock that has come to the last moment of all, and a source or a viewer who takes it further:
the part is told that it runs since a time to come. -/
theorem not_timely_overrun :
    let front : List Move := [.togglePause, .frame, .tick Int64.maxValue]
    let further : List Move := [.tick 1, .seekForward 1]
    let l := (opened "0 START_PART a\n" oneDiary ⟨{}, {}, #[]⟩ { mode := .live 25 } 25 0).run front
    (∀ m ∈ front ++ further, 0 ≤ m.amount) ∧ l.now = maxInt64 ∧
      ∀ m ∈ further, (l.move m).now = minInt64 ∧
        (((l.move m).move .frame).registry.get? "a").map (·.part.frames) =
          some [⟨0, 0⟩, ⟨minInt64, minInt64⟩] ∧ ¬ (l.move m).Timely := by
  intro front further l
  have hnow : ∀ m ∈ further, (l.move m).now = minInt64 := by decide +kernel
  have hframes : ∀ m ∈ further, (((l.move m).move .frame).registry.get? "a").map (·.part.frames) =
      some [⟨0, 0⟩, ⟨minInt64, minInt64⟩] := by decide +kernel
  have hrunning : ∀ m ∈ further,
      ((l.move m).registry.get? "a").map (·.status) = some (.running 0) := by decide +kernel
  refine ⟨by decide, by decide +kernel, fun m hm => ⟨hnow m hm, hframes m hm, fun htimely => ?_⟩⟩
  obtain ⟨e, he, hstatus⟩ := Option.map_eq_some_iff.1 (hrunning m hm)
  have hle := htimely.since "a" e 0 he hstatus
  rw [hnow m hm] at hle
  exact absurd hle (by decide)

end Live

end DemoReel
