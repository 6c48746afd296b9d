import DemoReel.Part.Scene
import DemoReel.Proofs.Playback.Frame

/-!
# The picture of a frame

What a frame of scenes asks of the backend: a list of calls that follows from the parts, the effects
and the time, and that no answer of the backend can change. Main statement: a picture is drawn by
these calls and leaves the parts as they were; effects that prune themselves afterwards take nothing
with them that shows at the time (`exists_compose_scenes`).
-/

namespace DemoReel

open Number

variable {σ : Type}

namespace World

theorem drawAll_eq_foldl [Graphics σ] (w : World σ) (qs : List Quad) :
    w.drawAll qs = (qs.map Call.draw).foldl World.after w := by
  rw [drawAll, List.foldl_map]

end World

/-! ## Scenes -/

theorem Registry.prepare_eq_foldl [Graphics σ] (s : PartSettings) (w : World σ) :
    prepare s w = s.setup.foldl World.after w := by
  unfold prepare PartSettings.setup
  by_cases ht : s.target = .framebuffer <;> by_cases hc : s.clear = true <;> simp [ht, hc]

/-- What drawing a scene asks of the backend: nothing, unless it runs. -/
def Enrolled.calls (time : Int) (e : Enrolled Scene) : List Call :=
  match e.status with
  | .idle => []
  | .running since =>
    e.settings.setup ++
      [.draw (.fullscreen (e.part.colorAt (wrapInt64 (time - since)))), .bind .framebuffer, .reset]

namespace Registry

variable [Graphics σ]

theorem renderEntry_scene (time : Int) (name : String) (e : Enrolled Scene) (w : World σ) :
    renderEntry time name e w = (e, (e.calls time).foldl World.after w) := by
  obtain ⟨part, settings, status⟩ := e
  cases status with
  | idle => rfl
  | running since =>
    simp only [renderEntry, Enrolled.calls, List.foldl_append, ← prepare_eq_foldl]
    rfl

theorem traverse_scenes (time : Int) (l : List (String × Enrolled Scene)) (w : World σ) :
    NameMap.traverseList (renderEntry time) l w =
      (l, (l.flatMap fun x => x.2.calls time).foldl World.after w) := by
  induction l generalizing w with
  | nil => rfl
  | cons x rest ih =>
    obtain ⟨name, e⟩ := x
    rw [NameMap.traverseList, renderEntry_scene, List.flatMap_cons, List.foldl_append]
    dsimp only
    rw [ih]

/-- What drawing the parts asks of the backend, in the order of the names. -/
def calls (time : Int) (r : Registry Scene) : List Call :=
  r.parts.entries.flatMap fun x => x.2.calls time

/-- Scenes are the same after they have been drawn. -/
theorem render_scenes (r : Registry Scene) (time : Int) (w : World σ) :
    r.render time w = (r.running.length, r, (r.calls time).foldl World.after w) := by
  have htraverse := traverse_scenes time r.parts.entries w
  have hparts : (r.parts.traverse (renderEntry time) w).1 = r.parts :=
    NameMap.ext (congrArg Prod.fst htraverse)
  have hworld : (r.parts.traverse (renderEntry time) w).2 = (r.calls time).foldl World.after w :=
    congrArg Prod.snd htraverse
  rw [← hworld]
  exact congrArg (fun parts => (r.running.length, (⟨parts⟩ : Registry Scene), _)) hparts

end Registry

/-! ## Effects -/

namespace Timeline

/-- What is over shows no more, so that it is not missed. -/
theorem activeAt_prune (t : Timeline) (time : Int) :
    (t.prune time).2.activeAt time = t.activeAt time := by
  unfold activeAt prune
  rw [List.filter_filter]
  refine List.filter_congr fun e _ => ?_
  cases hopen : e.2.window.contains time with
  | true => simp [Window.not_expired_of_contains hopen]
  | false => rfl

theorem shownQuads_prune (t : Timeline) (time : Int) :
    (t.prune time).2.shownQuads time = t.shownQuads time := by
  rw [shownQuads, activeAt_prune, shownQuads]

theorem exists_apply_eq [Graphics σ] (t : Timeline) (time : Int) (w : World σ) :
    ∃ t' events, t.apply time w = ((t.activeAt time).length, t',
        (((t.shownQuads time).map Call.draw).foldl World.after w).noteAll events) ∧
      t'.shownQuads time = t.shownQuads time := by
  rw [apply_eq, quads_eq_shownQuads, World.drawAll_eq_foldl]
  refine ⟨_, _, rfl, ?_⟩
  cases t.autoPrune with
  | true => exact t.shownQuads_prune time
  | false => rfl

end Timeline

/-! ## Pictures -/

/-- What drawing the picture of a time asks of the backend. -/
def Scheduler.picture (time : Int) (s : Scheduler Scene σ) : List Call :=
  background ++ s.registry.calls time ++ (s.timeline.shownQuads time).map .draw

namespace Playback

theorem exists_compose_scenes [Graphics σ] (time : Int) (commands : Nat) (p : Playback Scene σ) :
    ∃ timeline events, compose time commands p =
        ⟨{ p.player with lastTime := time }, { p.scheduler with timeline },
          ((p.scheduler.picture time).foldl World.after p.world).noteAll events⟩ ∧
      timeline.shownQuads time = p.scheduler.timeline.shownQuads time := by
  obtain ⟨timeline, events, happly, hshown⟩ := p.scheduler.timeline.exists_apply_eq time
    ((p.scheduler.registry.calls time).foldl World.after p.world.backdrop)
  have hpicture : (p.scheduler.picture time).foldl World.after p.world =
      ((p.scheduler.timeline.shownQuads time).map Call.draw).foldl World.after
        ((p.scheduler.registry.calls time).foldl World.after p.world.backdrop) := by
    rw [Scheduler.picture, List.foldl_append, List.foldl_append]
    rfl
  let told : Event := .frameRendered p.player.frameIndex time commands
    p.scheduler.registry.running.length (p.scheduler.timeline.activeAt time).length
  have hcompose : compose time commands p =
      ⟨{ p.player with lastTime := time }, { p.scheduler with timeline },
        (((p.scheduler.picture time).foldl World.after p.world).noteAll events).note told⟩ := by
    have hparts := p.scheduler.registry.render_scenes time p.world.backdrop
    unfold World.backdrop at hparts happly hpicture
    simp only [compose, Scheduler.renderParts, Scheduler.applyEffects, hparts, happly, hpicture]
    rfl
  refine ⟨timeline, events ++ [told], ?_, hshown⟩
  rw [hcompose, World.noteAll, World.noteAll, List.foldl_append]
  rfl

end Playback

end DemoReel
