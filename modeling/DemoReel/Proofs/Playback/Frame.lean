import DemoReel.Image.Files
import DemoReel.Playback.Player
import DemoReel.Proofs.Part.Turns
import DemoReel.Proofs.Text.ByteOrder
import Mathlib.Data.List.Forall2

/-!
# One frame

What a frame asks of the backend once its drain is over. Main statement: the background, the turns
of the running parts, the effects that show, the presentation and the file follow each other in this
order and nothing comes between them; a part finds its own target bound, and effects are drawn on
the framebuffer, whatever the parts have done (`step_shows`).
-/

namespace DemoReel

open Number

variable {π σ μ : Type}

/-- What a frame begins with. -/
def background : List Call := [.bind .framebuffer, .clear, .clearDepth]

/-- What saving the picture of a frame asks of the backend. -/
def PlayMode.saves (index : Nat) : PlayMode → List Call
  | .live _ => []
  | .capture dir _ => [.capture (dir.join ⟨frameFileName index⟩)]

/-- The quads of the effects that show at a time. -/
def Timeline.shownQuads (t : Timeline) (time : Int) : List Quad :=
  (t.activeAt time).flatMap fun e => e.2.content.quads e.2.window time

/-- Effects whose window is closed draw nothing. -/
theorem Timeline.quads_eq_shownQuads (t : Timeline) (time : Int) :
    t.quads time = t.shownQuads time := by
  unfold quads shownQuads activeAt
  induction t.effects with
  | nil => rfl
  | cons e es ih =>
    cases h : e.2.window.contains time with
    | true => simp [h, ih, Effect.quads_of_contains h]
    | false => simp [h, ih, Effect.quads_of_not_contains h]

theorem Timeline.exists_noteAll_apply [Graphics σ] (t : Timeline) (time : Int) (w : World σ) :
    ∃ events, (t.apply time w).2.2 = (w.drawAll (t.shownQuads time)).noteAll events := by
  rw [apply_eq, quads_eq_shownQuads]
  exact ⟨_, rfl⟩

/-- The quads that an effect of each kind lays over the picture. All of them cover it; only the
complement blends in its own way, and only what an effect names has a texture or a shader. -/
inductive EffectContent.Lays (window : Window) (time : Int) :
    EffectContent Texture ShaderId → List Quad → Prop where
  | negative : Lays window time .negative [⟨⟨0, 0⟩, ⟨1, 1⟩, ⟨1, 1, 1, 1⟩, none, none, .invert⟩]
  | flash (c : Color) : Lays window time (.flash c)
      [⟨⟨0, 0⟩, ⟨1, 1⟩, ⟨c.red, c.green, c.blue, c.alpha * window.pulse time⟩, none, none, .alpha⟩]
  /-- A fade to a color. -/
  | fade (a b : Color) (texture : Option Texture) : Lays window time (.fade a texture b none)
      [⟨⟨0, 0⟩, ⟨1, 1⟩, a.mix b (window.progress time), texture, none, .alpha⟩]
  /-- A fade to a texture, which is laid over the color. -/
  | fadeTo (a b : Color) (texture : Option Texture) (t : Texture) :
      Lays window time (.fade a texture b (some t))
        (let color := a.mix b (window.progress time)
        [⟨⟨0, 0⟩, ⟨1, 1⟩, color, texture, none, .alpha⟩,
          ⟨⟨0, 0⟩, ⟨1, 1⟩,
            ⟨color.red, color.green, color.blue, color.alpha * window.progress time⟩, some t, none,
            .alpha⟩])
  | overlay (t : Texture) : Lays window time (.overlay t none)
      [⟨⟨0, 0⟩, ⟨1, 1⟩, ⟨1, 1, 1, 1⟩, some t, none, .alpha⟩]
  /-- A texture through a shader, which is told the moment. -/
  | shaded (t : Texture) (shader : ShaderId) : Lays window time (.overlay t (some shader))
      [⟨⟨0, 0⟩, ⟨1, 1⟩, ⟨1, 1, 1, 1⟩, some t, some ⟨shader, window.params time⟩, .alpha⟩]

theorem EffectContent.lays_quads (window : Window) (time : Int)
    (content : EffectContent Texture ShaderId) :
    content.Lays window time (content.quads window time) := by
  cases content with
  | negative => exact .negative
  | flash c => exact .flash c
  | fade a texture b last =>
    cases last with
    | none => exact .fade a b texture
    | some t => exact .fadeTo a b texture t
  | overlay t shader =>
    cases shader with
    | none => exact .overlay t
    | some shader => exact .shaded t shader

namespace World

/-- The world when the background of a frame is drawn. -/
def backdrop [Graphics σ] (w : World σ) : World σ :=
  ((w.after (.bind .framebuffer)).after .clear).after .clearDepth

@[simp] theorem entries_backdrop [Graphics σ] (w : World (Recorder μ σ)) :
    w.backdrop.entries = w.entries ++ background.map .inl := by
  simp [backdrop, background]

theorem bound_backdrop [Graphics σ] {bound : σ → Target} (h : TellsTarget bound) (w : World σ) :
    bound w.backdrop.gfx = .framebuffer := by
  rw [backdrop, h.clearDepth, h.clear, h.bind]

end World

/-- What a frame at `time` does after its drain, which has left the scheduler `s` and the world `w`.
The parts take `turns` and leave `painted`; the effects lay `layers` over it, one list of quads for
each effect that shows, then the picture is `ready`, and when it has been presented it is saved by
`saves`. -/
structure Shows [Graphics σ] [Part π (Recorder μ σ)] (bound : Recorder μ σ → Target) (time : Int)
    (saves : List Call) (s : Scheduler π (Recorder μ σ)) (w : World (Recorder μ σ))
    (turns : List (Turn π (Recorder μ σ))) (layers : List (List Quad))
    (painted ready shown : World (Recorder μ σ)) : Prop where
  /-- Every running part has one turn, and no other part has one. -/
  running : turns.map (fun t => (t.name, t.enrolled)) = s.registry.running
  /-- The turns are in the order of the bytes of the names. -/
  ascending : (turns.map (·.name)).Pairwise fun n m => Text.utf8 n < Text.utf8 m
  /-- What is on record when a part begins to draw. -/
  entered : ∀ front t back, turns = front ++ t :: back →
    t.entered.entries = w.entries ++ background.map .inl ++ front.flatMap Turn.entries ++
      t.enrolled.settings.setup.map .inl
  /-- What a part is told, and what it puts on record. -/
  drawn : ∀ t ∈ turns, (∃ since, t.enrolled.status = .running since ∧
      t.frame = ⟨time, wrapInt64 (time - since)⟩) ∧
    (Part.render t.enrolled.part t.frame t.entered).2.2.entries = t.entered.entries ++ t.own
  /-- The effects that show are those whose window contains the time, in the order in which they
  were added. -/
  laid : List.Forall₂ (fun e quads => e.2.content.Lays e.2.window time quads)
    (s.timeline.effects.filter fun e => e.2.window.start ≤ time ∧ time < e.2.window.stop) layers
  /-- All that is on record when the frame is over. -/
  entries : shown.entries = w.entries ++ background.map .inl ++ turns.flatMap Turn.entries ++
    layers.flatten.map (fun q => .inl (.draw q)) ++
    .inl .present :: if (ready.call .present).1.isOk then saves.map .inl else []
  /-- Every part finds its own target bound. -/
  target : ∀ t ∈ turns, bound t.entered.gfx = t.enrolled.settings.target
  /-- The effects are drawn on what the parts have painted, and every quad on the framebuffer. -/
  effects : ready.gfx = (painted.drawAll layers.flatten).gfx ∧
    ∀ front, front <+: layers.flatten → bound (painted.drawAll front).gfx = .framebuffer

namespace Playback

/-- How many frames more there are after one with this result. -/
def counted : Except RunError FrameStatus → Nat
  | .ok _ => 1
  | .error _ => 0

/-- The time that the next frame shows. -/
def timeAt (reading : Int64) (p : Playback π σ) : Int :=
  p.player.mode.timeOf p.player.frameIndex (p.scheduler.now reading)

section

variable [Graphics σ] [Part π σ]

theorem step_of_drain {reading : Int64} {p : Playback π σ} {report : DrainReport}
    {s : Scheduler π σ} {w : World σ}
    (h : p.scheduler.drain (p.timeAt reading) p.world = (.ok report, s, w)) :
    p.step reading = (compose (p.timeAt reading) report.dispatched.length
      { p with scheduler := s, world := w }).deliver report.status := by
  unfold timeAt at h
  simp only [step, h]
  rfl

theorem step_of_drain_error {reading : Int64} {p : Playback π σ} {e : ScriptError}
    {s : Scheduler π σ} {w : World σ}
    (h : p.scheduler.drain (p.timeAt reading) p.world = (.error e, s, w)) :
    p.step reading = (.error (.script e), { p with scheduler := s, world := w }) := by
  unfold timeAt at h
  simp only [step, h]

omit [Part π σ] in
theorem exists_save (p : Playback π σ) : ∃ reply world, p.save = (reply, { p with world }) := by
  unfold save
  cases p.player.mode with
  | live fps => exact ⟨.ok (), p.world, rfl⟩
  | capture dir fps => exact ⟨_, _, rfl⟩

omit [Part π σ] in
/-- A picture that was presented and saved makes a frame that counts; otherwise the backend has
failed, and no frame is counted. -/
theorem deliver_cases (status : DrainStatus) (p : Playback π σ) :
    ((p.world.call .present).1.isOk = true ∧ ∃ world, p.deliver status =
      (.ok (.ofDrain status),
        { p with player := { p.player with frameIndex := p.player.frameIndex + 1 }, world })) ∨
    ∃ e world, p.deliver status = (.error (.graphics e), { p with world }) := by
  cases hpresent : p.world.call .present with
  | mk reply world =>
    obtain ⟨saved, world', hsave⟩ := exists_save { p with world }
    cases reply with
    | error e =>
      simp only [deliver, hpresent]
      exact .inr ⟨e, world, rfl⟩
    | ok _ =>
      cases saved with
      | error e =>
        simp only [deliver, hpresent, hsave]
        exact .inr ⟨e, world', rfl⟩
      | ok _ =>
        simp only [deliver, hpresent, hsave]
        exact .inl ⟨rfl, world', rfl⟩

/-- After its drain, a frame changes nothing about the scheduler but the parts, which have drawn,
and the effects. -/
theorem exists_step {reading : Int64} {p : Playback π σ} {report : DrainReport}
    {s : Scheduler π σ} {w : World σ}
    (h : p.scheduler.drain (p.timeAt reading) p.world = (.ok report, s, w)) :
    ∃ frameIndex lastTime timeline world, (p.step reading).2 =
      { player := { p.player with frameIndex, lastTime }
        scheduler :=
          { s with registry := (s.registry.render (p.timeAt reading) w.backdrop).2.1, timeline }
        world } := by
  rw [step_of_drain h]
  let picture := compose (p.timeAt reading) report.dispatched.length
    { p with scheduler := s, world := w }
  rcases deliver_cases report.status picture with ⟨-, world, hdeliver⟩ | ⟨e, world, hdeliver⟩
  · rw [hdeliver]
    exact ⟨p.player.frameIndex + 1, p.timeAt reading, _, world, rfl⟩
  · rw [hdeliver]
    exact ⟨p.player.frameIndex, p.timeAt reading, _, world, rfl⟩

@[simp] theorem mode_compose (time : Int) (commands : Nat) (p : Playback π σ) :
    (compose time commands p).player.mode = p.player.mode := rfl

@[simp] theorem frameIndex_compose (time : Int) (commands : Nat) (p : Playback π σ) :
    (compose time commands p).player.frameIndex = p.player.frameIndex := rfl

/-- A picture is composed of the background, the parts and the effects. -/
theorem exists_world_compose (time : Int) (commands : Nat) (p : Playback π σ) :
    ∃ events, (compose time commands p).world =
      (((p.scheduler.registry.render time p.world.backdrop).2.2.drawAll
        (p.scheduler.timeline.shownQuads time)).noteAll events) := by
  obtain ⟨events, heq⟩ := p.scheduler.timeline.exists_noteAll_apply time
    (p.scheduler.registry.render time p.world.backdrop).2.2
  let told : Event := .frameRendered p.player.frameIndex time commands
    (p.scheduler.registry.render time p.world.backdrop).1
    (p.scheduler.timeline.apply time (p.scheduler.registry.render time p.world.backdrop).2.2).1
  refine ⟨events ++ [told], ?_⟩
  rw [World.noteAll, List.foldl_append]
  exact congrArg (World.note · told) heq

end

section

variable [Graphics σ]

theorem entries_save (p : Playback π (Recorder μ σ)) :
    p.save.2.world.entries =
      p.world.entries ++ (p.player.mode.saves p.player.frameIndex).map .inl := by
  unfold save PlayMode.saves
  cases p.player.mode with
  | live fps => simp
  | capture dir fps => simp

theorem entries_deliver (status : DrainStatus) (p : Playback π (Recorder μ σ)) :
    (p.deliver status).2.world.entries = p.world.entries ++
      .inl .present :: if (p.world.call .present).1.isOk
        then (p.player.mode.saves p.player.frameIndex).map .inl else [] := by
  have hpresent := World.entries_call p.world .present
  unfold deliver
  cases hreply : p.world.call .present with
  | mk reply world =>
    rw [hreply] at hpresent
    cases reply with
    | error e => simp [hpresent, Except.isOk, Except.toBool]
    | ok _ =>
      have hsave := entries_save { p with world }
      simp only
      split
      · next h =>
        rw [h] at hsave
        simp [hsave, hpresent, Except.isOk, Except.toBool]
      · next h =>
        rw [h] at hsave
        simp [hsave, hpresent, Except.isOk, Except.toBool]

variable [Part π (Recorder μ σ)] {Q : Call ⊕ μ → Prop}

theorem entries_compose (h : Part.Adds π σ Q) (time : Int) (commands : Nat)
    (p : Playback π (Recorder μ σ)) :
    (compose time commands p).world.entries = p.world.entries ++ background.map .inl ++
      (p.scheduler.registry.turns time p.world.backdrop).flatMap Turn.entries ++
      (p.scheduler.timeline.shownQuads time).map fun q => .inl (.draw q) := by
  obtain ⟨events, heq⟩ := exists_world_compose time commands p
  have hparts := Registry.entries_traverse h time p.scheduler.registry.parts.entries
    p.world.backdrop
  rw [World.entries_backdrop] at hparts
  rw [heq, World.entries_noteAll, World.entries_drawAll, Registry.turns, ← hparts]
  rfl

/-- What is on record after a frame whose drain has not failed: the calls of the drain, and then
what shows the frame. Nothing is asked of the parts but that they leave the record of what was done
before them alone, and `bound` is any account of the bound target. -/
theorem step_shows (hparts : Part.Adds π σ fun _ : Call ⊕ μ => True)
    {bound : Recorder μ σ → Target} (hbound : TellsTarget bound) (reading : Int64)
    (p : Playback π (Recorder μ σ)) {report : DrainReport} {s : Scheduler π (Recorder μ σ)}
    {w : World (Recorder μ σ)}
    (hdrain : p.scheduler.drain (p.timeAt reading) p.world = (.ok report, s, w)) :
    let time := p.timeAt reading
    let turns := s.registry.turns time w.backdrop
    let layers := (s.timeline.activeAt time).map fun e => e.2.content.quads e.2.window time
    let painted := (s.registry.render time w.backdrop).2.2
    let picture := compose time report.dispatched.length { p with scheduler := s, world := w }
    Shows bound time (p.player.mode.saves p.player.frameIndex) s w turns layers painted
      picture.world (p.step reading).2.world := by
  intro time turns layers painted picture
  have hlayers : layers.flatten = s.timeline.shownQuads time := (List.flatMap_def ..).symm
  have hstep : p.step reading = picture.deliver report.status := step_of_drain hdrain
  obtain ⟨hpainted, htargets⟩ := Registry.bound_traverse hbound time s.registry.parts.entries
    (World.bound_backdrop hbound w)
  refine ⟨?_, ?_, ?_, ?_, ?_, ?_, htargets, ?_, ?_⟩
  · exact Registry.entries_turnsIn time s.registry.parts.entries w.backdrop
  · have hnames : turns.map (·.name) = s.registry.runningNames := by
      rw [Registry.runningNames, Registry.running,
        ← Registry.entries_turnsIn time s.registry.parts.entries w.backdrop, List.map_map]
      rfl
    rw [hnames]
    have hsorted : s.registry.runningNames.Pairwise (· < ·) :=
      s.registry.parts.sorted.sublist (List.filter_sublist.map _)
    exact hsorted.imp fun h => Text.utf8_lt_utf8 h
  · intro front t back hsplit
    rw [Registry.entries_entered hparts hsplit, World.entries_backdrop]
  · intro t ht
    exact ⟨Registry.frame_of_mem_turnsIn ht, t.entries_render hparts⟩
  · have hshown : s.timeline.activeAt time =
        s.timeline.effects.filter fun e => e.2.window.start ≤ time ∧ time < e.2.window.stop :=
      List.filter_congr fun e _ => (Bool.decide_and ..).symm
    rw [← hshown]
    exact List.forall₂_map_right_iff.2
      (List.forall₂_same.2 fun e _ => EffectContent.lays_quads e.2.window time e.2.content)
  · rw [hlayers, hstep, entries_deliver, entries_compose hparts]
    rfl
  · rw [hlayers]
    obtain ⟨events, heq⟩ := exists_world_compose time report.dispatched.length
      { p with scheduler := s, world := w }
    rw [heq, World.noteAll_eq_withJournal]
    rfl
  · intro front _
    rw [hbound.drawAll]
    exact hpainted

/-- A part that leaves another target bound and fails, and one that clears a target of its own. -/
theorem step_shows_stray :
    let stray : Routine := ⟨[.bind (.offscreen 1), .draw (.fullscreen .white)], some "lost"⟩
    let tidy : Routine := ⟨[.draw (.fullscreen .black)], none⟩
    let parts : NameMap (Enrolled Routine) :=
      (NameMap.empty.insert "b" ⟨tidy, ⟨.offscreen 2, true⟩, .idle⟩).insert "a"
        ⟨stray, {}, .idle⟩
    let s : Scheduler Routine (Recorder Empty Canvas) := { table := .standard, registry := ⟨parts⟩ }
    let w : World (Recorder Empty Canvas) :=
      { gfx := { inner := { Canvas.ofSize 2 2 with bound := .offscreen 3 } } }
    let loaded := (s.load (.text "0 START_PART a\n0 START_PART b\n0 FX neg 0 10\n") w).2
    let p : Playback Routine (Recorder Empty Canvas) :=
      ⟨{ mode := .capture ⟨"frames"⟩ 25 }, loaded.1, loaded.2⟩
    let drained := p.scheduler.drain (p.timeAt 0) p.world
    let report : DrainReport :=
      ⟨[⟨0, .startPart, true⟩, ⟨0, .startPart, true⟩, ⟨0, .effect, true⟩], .exhausted⟩
    Part.Adds Routine Canvas (fun _ : Call ⊕ Empty => True) ∧
      TellsTarget (fun g : Recorder Empty Canvas => g.inner.bound) ∧
      drained = (.ok report, drained.2.1, drained.2.2) ∧
      drained.2.1.registry.runningNames = ["a", "b"] ∧
      Shows (fun g => g.inner.bound) (p.timeAt 0) (p.player.mode.saves p.player.frameIndex)
        drained.2.1 drained.2.2 (drained.2.1.registry.turns (p.timeAt 0) drained.2.2.backdrop)
        [[⟨⟨0, 0⟩, ⟨1, 1⟩, ⟨1, 1, 1, 1⟩, none, none, .invert⟩]]
        (drained.2.1.registry.render (p.timeAt 0) drained.2.2.backdrop).2.2
        (compose (p.timeAt 0) report.dispatched.length
          { p with scheduler := drained.2.1, world := drained.2.2 }).world
        (p.step 0).2.world := by
  intro stray tidy parts s w loaded p drained report
  have hparts : Part.Adds Routine Canvas (fun _ : Call ⊕ Empty => True) :=
    fun r frame w => (Routine.adds Canvas r frame w).mono fun _ _ => trivial
  have hbound : TellsTarget (fun g : Recorder Empty Canvas => g.inner.bound) :=
    Canvas.tellsTarget_bound.recorder
  have hreport : drained.1 = .ok report := by decide +kernel
  have hdrained : drained = (.ok report, drained.2.1, drained.2.2) := Prod.ext hreport rfl
  have hlayers : ((drained.2.1.timeline.activeAt (p.timeAt 0)).map fun e =>
      e.2.content.quads e.2.window (p.timeAt 0)) =
        [[⟨⟨0, 0⟩, ⟨1, 1⟩, ⟨1, 1, 1, 1⟩, none, none, .invert⟩]] := by decide +kernel
  refine ⟨hparts, hbound, hdrained, by decide +kernel, ?_⟩
  rw [← hlayers]
  exact step_shows hparts hbound 0 p hdrained

end

end Playback

end DemoReel
