import DemoReel.Proofs.Effect.Pruning
import DemoReel.Proofs.Playback.Blind
import DemoReel.Proofs.Playback.Course

/-!
# Pruning cannot be seen

Two schedulers of which one prunes its timeline and the other does not. Main statement: whatever is
asked of both, as long as effects are drawn at times that do not go back and no handler looks at the
effects, both give the same answers and make the same calls, and the pruned timeline lacks nothing
but effects that are over (`pruning_unseen`). Pruning can be seen by a handler that looks at the
timeline, and after a restart that finds no script and so leaves the timeline as it is
(`not_pruning_unseen`).
-/

namespace DemoReel

variable {π σ μ α : Type}

namespace Scheduler

/-- A restart opens the script again, and so empties the timeline. -/
def reopens (s : Scheduler π σ) (w : World σ) : Bool :=
  match s.source with
  | none => false
  | some source => (source.reader w.disk).isOk

/-- The scheduler `s` prunes its timeline and `s'` does not. Apart from that and from effects that
are over, they are equal; their worlds may differ in what was reported. -/
structure Beside (last : Option Int) (s : Scheduler π σ) (w : World σ) (s' : Scheduler π σ)
    (w' : World σ) : Prop where
  same : s = { s' with timeline := s.timeline }
  timeline : s.timeline.Prunes last s'.timeline
  world : w.Alike w'
  blind : s'.table.ActsBlindly

/-- Two computations have the same result and leave schedulers one beside the other. -/
def EndBeside (last : Option Int) (x x' : α × Scheduler π σ × World σ) : Prop :=
  x.1 = x'.1 ∧ Beside last x.2.1 x.2.2 x'.2.1 x'.2.2

namespace Beside

variable {last : Option Int} {s s' : Scheduler π σ} {w w' : World σ}

theorem table (h : Beside last s w s' w') : s.table = s'.table := by rw [h.same]

theorem registry (h : Beside last s w s' w') : s.registry = s'.registry := by rw [h.same]

theorem source (h : Beside last s w s' w') : s.source = s'.source := by rw [h.same]

theorem reader (h : Beside last s w s' w') : s.reader = s'.reader := by rw [h.same]

theorem assets (h : Beside last s w s' w') : s.assets = s'.assets := by rw [h.same]

theorem ended (h : Beside last s w s' w') : s.ended = s'.ended := by rw [h.same]

/-- What is done to both timelines is of no interest to the rest. -/
theorem withTimeline (h : Beside last s w s' w') {last' : Option Int} {t t' : Timeline}
    {v v' : World σ} (ht : t.Prunes last' t') (hv : v.Alike v') :
    Beside last' { s with timeline := t } v { s' with timeline := t' } v' :=
  ⟨congrArg (fun s => { s with timeline := t }) h.same, ht, hv, h.blind⟩

theorem withReader (h : Beside last s w s' w') (reader : Option Script.Reader)
    (j j' : Journal) : Beside last { s with reader } { w with journal := j }
      { s' with reader } { w' with journal := j' } :=
  ⟨congrArg (fun s => { s with reader }) h.same, h.timeline, h.world.withJournal j j', h.blind⟩

/-! ## Draining -/

theorem dispatch (h : Beside last s w s' w') (c : Command) (time : Int) (j j' : Journal) :
    ∃ result stage stage',
      s.table.dispatch c s.assets time (s.stage { w with journal := j }) = (result, stage) ∧
        s'.table.dispatch c s'.assets time (s'.stage { w' with journal := j' }) =
          (result, stage') ∧
        stage.registry = stage'.registry ∧ stage.timeline.Prunes last stage'.timeline ∧
        stage.world.Alike stage'.world := by
  have hblind := h.blind c s'.assets time (s.stage { w with journal := j })
    (s'.stage { w' with journal := j' }) h.registry h.timeline.nextId (h.world.withJournal j j')
  rw [h.table, h.assets]
  generalize s'.table.dispatch c s'.assets time (s.stage { w with journal := j }) = x at hblind ⊢
  generalize s'.table.dispatch c s'.assets time (s'.stage { w' with journal := j' }) = x'
    at hblind ⊢
  obtain ⟨result, stage⟩ := x
  obtain ⟨result', stage'⟩ := x'
  obtain ⟨rfl, hregistry, hworld, changes, ht, ht'⟩ := hblind
  refine ⟨result, stage, stage', rfl, rfl, hregistry, ?_, hworld⟩
  rw [ht, ht']
  exact h.timeline.changed changes

theorem afterCommand (h : Beside last s w s' w') (reader : Script.Reader) (time : Int)
    (x : Attempt) {stage stage' : Stage π σ} (hregistry : stage.registry = stage'.registry)
    (ht : stage.timeline.Prunes last stage'.timeline) (hv : stage.world.Alike stage'.world) :
    let after := s.afterCommand reader time x stage
    let after' := s'.afterCommand reader time x stage'
    Beside last after.1 after.2 after'.1 after'.2 := by
  refine ⟨?_, ht, hv.note _ _, h.blind⟩
  simp only [Scheduler.afterCommand, hregistry, h.table, h.source, h.assets, h.ended]
  rw [h.same]

theorem courseFrom (h : Beside last s w s' w') (reader : Script.Reader) (time : Int)
    (done : Array Attempt) :
    EndBeside last (s.courseFrom reader time done w) (s'.courseFrom reader time done w') := by
  -- Both sides read on in one and the same reader; the induction is on what it has left.
  induction hn : reader.remaining using Nat.strongRecOn generalizing s s' w w' reader done with
  | ind n ih =>
    obtain ⟨hresult, hreader⟩ := reader.next_alike time w.journal w'.journal
    cases hnext : reader.next time w.journal with
    | mk upcoming rest =>
      obtain ⟨reader₁, j⟩ := rest
      rw [hnext] at hresult hreader
      have hnext' : reader.next time w'.journal =
          (upcoming, reader₁, (reader.next time w'.journal).2.2) :=
        Prod.ext hresult.symm (Prod.ext hreader.symm rfl)
      generalize (reader.next time w'.journal).2.2 = j' at hnext'
      cases upcoming with
      | error e =>
        rw [courseFrom_error hnext, courseFrom_error hnext']
        exact ⟨rfl, h.withReader _ j j'⟩
      | ok found =>
        cases found with
        | notYet =>
          rw [courseFrom_notYet hnext, courseFrom_notYet hnext']
          exact ⟨rfl, h.withReader _ j j'⟩
        | endOfScript =>
          rw [courseFrom_endOfScript hnext, courseFrom_endOfScript hnext']
          exact ⟨rfl, h.withReader _ j j'⟩
        | command c =>
          obtain ⟨result, stage, stage', hd, hd', hregistry, ht, hv⟩ := h.dispatch c time j j'
          rw [courseFrom_command done hnext hd, courseFrom_command done hnext' hd']
          have hafter := h.afterCommand reader₁ time ⟨c, result⟩ hregistry ht hv
          dsimp only
          split
          · exact ⟨rfl, congrArg (fun s => { s with ended := true }) hafter.same, hafter.timeline,
              hafter.world, hafter.blind⟩
          · exact ih reader₁.remaining (hn ▸ Script.Reader.remaining_lt_of_next hnext) hafter
              reader₁ (done.push ⟨c, result⟩) rfl

theorem drain (h : Beside last s w s' w') (time : Int) :
    EndBeside last (s.drain time w) (s'.drain time w') := by
  have hcourse : EndBeside last (s.course time w) (s'.course time w') := by
    simp only [course, h.ended, h.reader]
    split
    · exact ⟨rfl, h⟩
    · split
      · exact ⟨rfl, h⟩
      · exact h.courseFrom _ time #[]
  exact ⟨congrArg Course.report hcourse.1, hcourse.2⟩

/-! ## Drawing, and starting over -/

theorem renderParts [Graphics σ] [Part π σ] (hσ : Graphics.Blind σ) (hπ : Part.Blind π σ)
    (h : Beside last s w s' w') (time : Int) :
    EndBeside last (s.renderParts time w) (s'.renderParts time w') := by
  obtain ⟨hcount, hregistry, hworld⟩ := Registry.render_alike hσ hπ h.world s'.registry time
  simp only [Scheduler.renderParts, h.registry, hregistry, hcount]
  exact ⟨rfl, congrArg (fun s => { s with registry := (s'.registry.render time w').2.1 }) h.same,
    h.timeline, hworld, h.blind⟩

theorem applyEffects [Graphics σ] (hσ : Graphics.Blind σ) (h : Beside last s w s' w')
    {time : Int} (hlast : ∀ l ∈ last, l ≤ time) :
    EndBeside (some time) (s.applyEffects time w) (s'.applyEffects time w') := by
  have hdrawn : (w.drawAll (s.timeline.quads time)).Alike
      (w'.drawAll (s'.timeline.quads time)) := by
    rw [h.timeline.quads_eq hlast]
    exact h.world.drawAll hσ _
  simp only [Scheduler.applyEffects, Timeline.apply_eq, h.timeline.on, h.timeline.off, if_true,
    Bool.false_eq_true, if_false]
  refine ⟨congrArg List.length (h.timeline.activeAt_eq hlast),
    h.withTimeline (h.timeline.prune hlast) ?_⟩
  rw [World.noteAll_eq_withJournal]
  exact ⟨hdrawn.gfx, hdrawn.disk⟩

theorem reopens_eq (h : Beside last s w s' w') : s.reopens w = s'.reopens w' := by
  rw [reopens, reopens, h.source, h.world.disk]

/-- Either the script is not opened again, and everything is as before, or the timelines are
emptied. -/
theorem restart (h : Beside last s w s' w') (reading : Int64) :
    (s.restart reading w).1 = (s'.restart reading w').1 ∧
      Beside (if s'.reopens w' then none else last) (s.restart reading w).2.1
        (s.restart reading w).2.2 (s'.restart reading w').2.1 (s'.restart reading w').2.2 := by
  cases hsource : s'.source with
  | none =>
    simp only [Scheduler.restart, h.source, hsource, reopens]
    exact ⟨trivial, h⟩
  | some source =>
    cases hreader : source.reader w'.disk with
    | error e =>
      simp only [Scheduler.restart, h.source, hsource, h.world.disk, hreader, reopens]
      exact ⟨trivial, h⟩
    | ok reader =>
      simp only [Scheduler.restart, h.source, hsource, h.world.disk, hreader, reopens]
      refine ⟨trivial, ?_, h.timeline.clear none, h.world.note _ _, h.blind⟩
      simp only [h.registry]
      rw [h.same]

end Beside

end Scheduler

/-! ## What is asked of a scheduler -/

/-- What is asked of a scheduler by whoever plays with its timeline. -/
inductive Act where
  | drain (time : Int)
  | renderParts (time : Int)
  | applyEffects (time : Int)
  | addEffect (e : ImageEffect)
  | removeEffect (id : Nat)
  | clearEffects
  | restart (reading : Int64)

/-- The act draws no effects at an earlier time than the last at which effects were drawn. -/
def Act.inTime (last : Option Int) : Act → Bool
  | .applyEffects time => last.all (· ≤ time)
  | _ => true

/-- Effects are drawn at times that do not go back between two acts that are meant to empty the
timeline, whether or not a restart finds a script. -/
def Act.ascending (last : Option Int) : List Act → Bool
  | [] => true
  | .applyEffects time :: acts => last.all (· ≤ time) && ascending (some time) acts
  | .clearEffects :: acts | .restart _ :: acts => ascending none acts
  | _ :: acts => ascending last acts

/-- What it is answered with. Whoever removes an effect is told nothing of what comes back. -/
inductive Act.Answer where
  | drained (report : Except ScriptError DrainReport)
  /-- How many parts or effects have been drawn. -/
  | drawn (count : Nat)
  | added (id : Nat)
  | restarted (result : Except ScriptError Unit)
  | done
  deriving DecidableEq

/-- A scheduler and its world, and the time at which effects were last drawn since the timeline was
emptied. -/
structure Moment (π σ : Type) where
  scheduler : Scheduler π σ
  world : World σ
  last : Option Int := none

namespace Moment

/-- The moment with another timeline. -/
def withTimeline (m : Moment π σ) (timeline : Timeline) : Moment π σ :=
  { m with scheduler := { m.scheduler with timeline } }

section

variable [Graphics σ] [Part π σ]

def perform (m : Moment π σ) : Act → Act.Answer × Moment π σ
  | .drain time =>
    let (report, scheduler, world) := m.scheduler.drain time m.world
    (.drained report, { m with scheduler, world })
  | .renderParts time =>
    let (count, scheduler, world) := m.scheduler.renderParts time m.world
    (.drawn count, { m with scheduler, world })
  | .applyEffects time =>
    let (count, scheduler, world) := m.scheduler.applyEffects time m.world
    (.drawn count, { scheduler, world, last := some time })
  | .addEffect e =>
    let (id, timeline) := m.scheduler.timeline.add e
    (.added id, m.withTimeline timeline)
  | .removeEffect id => (.done, m.withTimeline (m.scheduler.timeline.remove id).2)
  | .clearEffects => (.done, { m.withTimeline m.scheduler.timeline.clear with last := none })
  | .restart reading =>
    let (result, scheduler, world) := m.scheduler.restart reading m.world
    let last := if m.scheduler.reopens m.world then none else m.last
    (.restarted result, { scheduler, world, last })

/-- What comes of several acts, one after the other. -/
def run (m : Moment π σ) : List Act → List Act.Answer × Moment π σ
  | [] => ([], m)
  | act :: acts =>
    let (answer, m) := m.perform act
    let (answers, m) := run m acts
    (answer :: answers, m)

/-- Effects are drawn at times that do not go back, until the timeline is emptied. -/
def timely (m : Moment π σ) : List Act → Bool
  | [] => true
  | act :: acts => act.inTime m.last && timely (m.perform act).2 acts

theorem timely_front {m : Moment π σ} {front acts : List Act} (h : m.timely acts = true)
    (hfront : front <+: acts) : m.timely front = true := by
  induction front generalizing m acts with
  | nil => rfl
  | cons act front ih =>
    obtain ⟨back, rfl⟩ := hfront
    obtain ⟨hnow, hlater⟩ := Bool.and_eq_true_iff.1 h
    exact Bool.and_eq_true_iff.2 ⟨hnow, ih hlater ⟨back, rfl⟩⟩

end

/-- The scheduler of `m` prunes its timeline and that of `m'` does not. -/
structure Beside (m m' : Moment π σ) : Prop where
  last : m.last = m'.last
  scheduler : Scheduler.Beside m'.last m.scheduler m.world m'.scheduler m'.world

section

variable [Graphics σ] [Part π σ] (hσ : Graphics.Blind σ) (hπ : Part.Blind π σ)
  {m m' : Moment π σ}

include hσ hπ

/-- One act has the same answer on both sides. -/
theorem Beside.perform (h : Beside m m') {act : Act} (htime : act.inTime m'.last = true) :
    (m.perform act).1 = (m'.perform act).1 ∧ Beside (m.perform act).2 (m'.perform act).2 := by
  have hs := h.scheduler
  cases act with
  | drain time =>
    obtain ⟨hreport, hnext⟩ := hs.drain time
    exact ⟨congrArg Act.Answer.drained hreport, h.last, hnext⟩
  | renderParts time =>
    obtain ⟨hcount, hnext⟩ := hs.renderParts hσ hπ time
    exact ⟨congrArg Act.Answer.drawn hcount, h.last, hnext⟩
  | applyEffects time =>
    have hlast : ∀ l ∈ m'.last, l ≤ time := by
      intro l hl
      rw [Act.inTime, Option.mem_def.1 hl] at htime
      exact of_decide_eq_true htime
    obtain ⟨hcount, hnext⟩ := hs.applyEffects hσ hlast
    exact ⟨congrArg Act.Answer.drawn hcount, rfl, hnext⟩
  | addEffect e =>
    exact ⟨congrArg Act.Answer.added hs.timeline.nextId, h.last,
      hs.withTimeline (hs.timeline.add e) hs.world⟩
  | removeEffect id => exact ⟨rfl, h.last, hs.withTimeline (hs.timeline.remove id) hs.world⟩
  | clearEffects => exact ⟨rfl, rfl, hs.withTimeline (hs.timeline.clear none) hs.world⟩
  | restart reading =>
    obtain ⟨hresult, hnext⟩ := hs.restart reading
    refine ⟨congrArg Act.Answer.restarted hresult, ?_, hnext⟩
    simp only [Moment.perform, hs.reopens_eq, h.last]

theorem Beside.run (h : Beside m m') {acts : List Act} (htimely : m'.timely acts = true) :
    (m.run acts).1 = (m'.run acts).1 ∧ Beside (m.run acts).2 (m'.run acts).2 := by
  induction acts generalizing m m' with
  | nil => exact ⟨rfl, h⟩
  | cons act acts ih =>
    obtain ⟨hnow, hlater⟩ := Bool.and_eq_true_iff.1 htimely
    obtain ⟨hanswer, hnext⟩ := h.perform hσ hπ hnow
    obtain ⟨hanswers, hlast⟩ := ih hnext hlater
    exact ⟨congrArg₂ List.cons hanswer hanswers, hlast⟩

end

/-- A scheduler that prunes its timeline (`on`) or does not, before anything is asked of it. -/
def start (on : Bool) (s : Scheduler π σ) (w : World σ) : Moment π σ :=
  { scheduler := { s with timeline := s.timeline.setAutoPrune on }, world := w }

/-- What cannot be told apart of a moment `m` with a pruned timeline and one without: everything but
the timelines and the journals. The pruned timeline is what is left of the other one when effects
that were over have been taken out. -/
structure Unseen (m m' : Moment π (Recorder μ σ)) : Prop where
  entries : m.world.entries = m'.world.entries
  gfx : m.world.gfx = m'.world.gfx
  scheduler : m.scheduler = { m'.scheduler with timeline := m.scheduler.timeline }
  sublist : m.scheduler.timeline.effects.Sublist m'.scheduler.timeline.effects
  contains : ∀ e ∈ m'.scheduler.timeline.effects,
    (∀ time ∈ m'.last, e.2.window.expired time = false) → e ∈ m.scheduler.timeline.effects

theorem Beside.unseen {m m' : Moment π (Recorder μ σ)} (h : Beside m m') : Unseen m m' := by
  refine ⟨congrArg (·.entries.toList) h.scheduler.world.gfx, h.scheduler.world.gfx,
    h.scheduler.same, h.scheduler.timeline.sublist, fun e he hlast => ?_⟩
  refine h.scheduler.timeline.mem_of_survives he ?_
  cases hm : m'.last with
  | none => rfl
  | some time => simp [survives, hlast time hm]

/-- Pruning cannot be seen: whatever is asked of a scheduler that prunes and of one that does not,
the answers are the same, and so are, at every moment, the calls that have been made and everything
else but effects that are over. Neither the backend nor the parts look at the journal, where pruning
is reported, and the handlers look at no effects. A restart empties the timeline only if there is a
script that can be opened. -/
theorem pruning_unseen [Graphics σ] [Part π (Recorder μ σ)] (hσ : Graphics.Blind σ)
    (hπ : Part.Blind π (Recorder μ σ)) (s : Scheduler π (Recorder μ σ))
    (hs : s.table.ActsBlindly) (w : World (Recorder μ σ)) {acts : List Act}
    (htimely : (start false s w).timely acts = true) :
    ((start true s w).run acts).1 = ((start false s w).run acts).1 ∧
      ∀ front, front <+: acts →
        Unseen ((start true s w).run front).2 ((start false s w).run front).2 := by
  have hstart : Beside (start true s w) (start false s w) :=
    ⟨rfl, rfl, s.timeline.prunes_setAutoPrune, .refl w, hs⟩
  refine ⟨(hstart.run (Recorder.blind hσ) hπ htimely).1, fun front hfront => ?_⟩
  exact (hstart.run (Recorder.blind hσ) hπ (timely_front htimely hfront)).2.unseen

/-- Effects that are over when they are drawn, one that is over before it is added, and a script
that adds one more. -/
theorem pruning_unseen_flash :
    let s : Scheduler Scene (Recorder Empty Rehearsal) :=
      { table := .standard, registry := ⟨NameMap.empty.insert "a" ⟨.solid .white, {}, .idle⟩⟩ }
    let w : World (Recorder Empty Rehearsal) := { gfx := { inner := {} } }
    let opened := (s.load (.text "0 START_PART a\n5 FX neg 5 10\n") w).2
    let early : ImageEffect := ⟨⟨0, 4⟩, .flash .white⟩
    let acts : List Act :=
      [.addEffect early, .applyEffects 3, .drain 6, .renderParts 6, .applyEffects 6,
        .addEffect early, .removeEffect 1, .applyEffects 20, .restart 0, .drain 8, .applyEffects 8]
    Graphics.Blind Rehearsal ∧ Part.Blind Scene (Recorder Empty Rehearsal) ∧
      opened.1.table.ActsBlindly ∧ (start false opened.1 opened.2).timely acts = true ∧
      ((start true opened.1 opened.2).run acts).1 = ((start false opened.1 opened.2).run acts).1 ∧
      ∀ front, front <+: acts → Unseen ((start true opened.1 opened.2).run front).2
        ((start false opened.1 opened.2).run front).2 := by
  intro s w opened early acts
  have hσ : Graphics.Blind Rehearsal := Rehearsal.blind
  have hπ : Part.Blind Scene (Recorder Empty Rehearsal) := Scene.blind (Recorder.blind hσ)
  have hs : opened.1.table.ActsBlindly := CommandTable.standard_actsBlindly (Recorder.blind hσ)
  have htimely : (start false opened.1 opened.2).timely acts = true := by decide +kernel
  exact ⟨hσ, hπ, hs, htimely, pruning_unseen hσ hπ opened.1 hs opened.2 htimely⟩

/-- A handler that goes on as long as the timeline has effects. -/
def goOnWithEffects : Handler Scene (Recorder Empty Rehearsal) := fun _ _ _ st =>
  (.ok (if st.timeline.size = 0 then .endOfReel else .goOn), st)

/-- An effect of a tenth of a second can be seen to be missing in two ways. Without a script there
is nothing to restart, so the timeline stays as it is and is drawn at an earlier time; and a handler
can look at the timeline. In both cases the times do not go back between two acts that are meant to
empty the timeline. -/
theorem not_pruning_unseen :
    let w : World (Recorder Empty Rehearsal) := { gfx := { inner := {} } }
    let add : Act := .addEffect ⟨⟨0, 100⟩, .negative⟩
    let idle : Scheduler Scene (Recorder Empty Rehearsal) := { table := .standard }
    let back : List Act := [add, .applyEffects 200, .restart 0, .applyEffects 50]
    let nosy := { idle with table := idle.table.setHandler .finish goOnWithEffects }
    let opened := (nosy.load (.text "300 END\n") w).2
    let asked : List Act := [add, .applyEffects 200, .drain 300]
    Act.ascending none back = true ∧ Act.ascending none asked = true ∧
      ((start true idle w).run back).1 =
        [.added 0, .drawn 0, .restarted (.ok ()), .drawn 0] ∧
      ((start false idle w).run back).1 =
        [.added 0, .drawn 0, .restarted (.ok ()), .drawn 1] ∧
      ((start true opened.1 opened.2).run asked).1 =
        [.added 0, .drawn 0, .drained (.ok ⟨[⟨300, .finish, true⟩], .ended⟩)] ∧
      ((start false opened.1 opened.2).run asked).1 =
        [.added 0, .drawn 0, .drained (.ok ⟨[⟨300, .finish, true⟩], .exhausted⟩)] := by
  decide +kernel

end Moment

end DemoReel
