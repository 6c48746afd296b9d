import DemoReel.Image.Files
import DemoReel.Part.Scene
import DemoReel.Proofs.Canvas.Calls
import DemoReel.Proofs.Playback.Keeps

/-!
# Offscreen targets

What a frame of scenes paints on the surface of an offscreen target. Only the turns of the parts
that are drawn on it matter, one after the other; the background and the effects go to the
framebuffer, whichever target was bound before the frame. Main statement: the surface after the
frame is what those turns make of the surface before it, and if the drain fails it is the surface
before it (`Playback.surface_step`).
-/

namespace DemoReel

open Number

variable {π : Type}

/-- The running parts that are drawn on a target, in the order of their names. -/
def Registry.drawnOn (r : Registry π) (t : Target) : List (String × Enrolled π) :=
  r.running.filter fun x => x.2.settings.target = t

/-- What the turn of a scene makes of the surface `s` that it is drawn on: the surface is cleared if
the part asks for it, and then filled with the color of the moment. -/
def Enrolled.paint (time : Int) (s : Surface) (e : Enrolled Scene) : Surface :=
  match e.status with
  | .idle => s
  | .running since =>
    let ground := if e.settings.clear then s.fill .black else s
    ground.composite (.fullscreen (e.part.colorAt (wrapInt64 (time - since)))) none

/-! ## Commands -/

/-- The handlers of the table leave all surfaces alone. -/
def CommandTable.Spares [Image.Library] (t : CommandTable π Canvas) : Prop :=
  ∀ c assets time (st : Stage π Canvas),
    (t.dispatch c assets time st).2.world.gfx.surfaces = st.world.gfx.surfaces

theorem CommandTable.standard_spares [Image.Library] :
    (standard : CommandTable π Canvas).Spares := by
  intro c assets time st
  let P (w : World Canvas) : Prop := w.gfx.surfaces = st.world.gfx.surfaces
  have hload : World.KeptByLoads P := by
    intro w call hcall hw
    refine (Canvas.surfaces_call w ?_ fun q => ?_).trans hw
    · rintro rfl
      cases hcall
    · rintro rfl
      cases hcall
  exact dispatch_keeps (P := P) (hload.keptByAssets assets) (fun _ _ h => h) c time rfl

theorem Scheduler.surfaces_drain [Image.Library] {s : Scheduler π Canvas} (h : s.table.Spares)
    (time : Int) (w : World Canvas) : (s.drain time w).2.2.gfx.surfaces = w.gfx.surfaces :=
  drain_keeps_of_commands (P := fun v : World Canvas => v.gfx.surfaces = w.gfx.surfaces)
    (fun c st hst => (h c s.assets time st).trans hst) (fun _ _ h => h) rfl

/-! ## Turns -/

namespace Registry

variable [Image.Library] {w : World Canvas}

theorem surface_prepare (settings : PartSettings) (hw : w.gfx.bound = .framebuffer) (t : Target) :
    (prepare settings w).gfx.surface t =
      if settings.target = t ∧ settings.clear = true then (w.gfx.surface t).fill .black
      else w.gfx.surface t := by
  let bound := if settings.target = .framebuffer then w else w.after (.bind settings.target)
  have htarget : bound.gfx.bound = settings.target := by
    by_cases h : settings.target = .framebuffer
    · simp only [bound, if_pos h, hw, h]
    · simp only [bound, if_neg h]
      rfl
  have hsurface : bound.gfx.surface t = w.gfx.surface t := by
    by_cases h : settings.target = .framebuffer
    · simp only [bound, if_pos h]
    · simp only [bound, if_neg h]
      rfl
  show (if settings.clear then (bound.after .clear).after .clearDepth else bound).gfx.surface t = _
  by_cases hclear : settings.clear = true
  · rw [if_pos hclear]
    show (bound.gfx.clear).surface t = _
    by_cases heq : settings.target = t
    · rw [if_pos ⟨heq, hclear⟩, ← hsurface, ← heq, ← htarget]
      exact Canvas.surface_setSurface_self _ _ _
    · rw [if_neg fun h => heq h.1, ← hsurface]
      exact Canvas.surface_setSurface_of_ne _ (fun h => heq (htarget.symm.trans h.symm)) _
  · rw [if_neg hclear, if_neg fun h => hclear h.2, hsurface]

theorem bound_renderEntry (time : Int) (name : String) (e : Enrolled Scene)
    (hw : w.gfx.bound = .framebuffer) : (renderEntry time name e w).2.gfx.bound = .framebuffer := by
  obtain ⟨part, settings, status⟩ := e
  cases status with
  | idle => exact hw
  | running since => rfl

/-- A turn paints the surface of its own target and no other. -/
theorem surface_renderEntry (time : Int) (name : String) (e : Enrolled Scene)
    (hw : w.gfx.bound = .framebuffer) (t : Target) :
    (renderEntry time name e w).2.gfx.surface t =
      if e.status.isRunning = true ∧ e.settings.target = t then e.paint time (w.gfx.surface t)
      else w.gfx.surface t := by
  obtain ⟨part, settings, status⟩ := e
  cases status with
  | idle => rfl
  | running since =>
    let q := Quad.fullscreen (part.colorAt (wrapInt64 (time - since)))
    show ((prepare settings w).gfx.draw q).surface t = _
    have htarget := bound_prepare Canvas.tellsTarget_bound settings hw
    by_cases heq : settings.target = t
    · have hdrawn := Canvas.surface_draw_fullscreen (prepare settings w).gfx
        (part.colorAt (wrapInt64 (time - since)))
      have hpaint : Enrolled.paint time (w.gfx.surface t) ⟨part, settings, .running since⟩ =
          (if settings.target = t ∧ settings.clear = true then (w.gfx.surface t).fill .black
            else w.gfx.surface t).composite q none := by
        simp only [Enrolled.paint, heq, true_and, q]
      rw [htarget, heq, surface_prepare settings hw, ← hpaint] at hdrawn
      rw [hdrawn, if_pos ⟨rfl, heq⟩]
    · rw [if_neg fun h => heq h.2,
        Canvas.surface_draw_of_ne _ _ fun h => heq (htarget.symm.trans h.symm),
        surface_prepare settings hw, if_neg fun h => heq h.1]

/-- Of all turns those on a target paint its surface, one after the other. -/
theorem surface_traverse (time : Int) (l : List (String × Enrolled Scene))
    (hw : w.gfx.bound = .framebuffer) (t : Target) :
    (NameMap.traverseList (renderEntry time) l w).2.gfx.surface t =
      ((l.filter (·.2.status.isRunning)).filter fun x => x.2.settings.target = t).foldl
        (fun s x => x.2.paint time s) (w.gfx.surface t) := by
  induction l generalizing w with
  | nil => rfl
  | cons x rest ih =>
    obtain ⟨name, e⟩ := x
    have hrest := ih (bound_renderEntry time name e hw)
    rw [surface_renderEntry time name e hw] at hrest
    rw [NameMap.traverseList]
    dsimp only
    rw [hrest, List.filter_filter, List.filter_filter, List.filter_cons]
    by_cases hturn : e.status.isRunning = true ∧ e.settings.target = t
    · rw [if_pos hturn, if_pos (by simpa using hturn.symm), List.foldl_cons]
    · rw [if_neg hturn, if_neg (by simpa [and_comm] using hturn)]

end Registry

/-! ## Frames -/

/-- The background of a frame goes to the framebuffer, whatever was bound before. -/
theorem World.surface_backdrop [Image.Library] (w : World Canvas) {t : Target}
    (h : t ≠ .framebuffer) : w.backdrop.gfx.surface t = w.gfx.surface t :=
  Canvas.surface_call_of_ne (w.after (.bind .framebuffer)) .clear h

namespace Playback

theorem surface_compose [Image.Library] (time : Int) (commands : Nat)
    (p : Playback Scene Canvas) {t : Target} (h : t ≠ .framebuffer) :
    (compose time commands p).world.gfx.surface t =
      (p.scheduler.registry.drawnOn t).foldl (fun s x => x.2.paint time s)
        (p.world.gfx.surface t) := by
  have hbackdrop : p.world.backdrop.gfx.bound = .framebuffer :=
    World.bound_backdrop Canvas.tellsTarget_bound p.world
  obtain ⟨hbound, -⟩ := Registry.bound_traverse (π := Scene) Canvas.tellsTarget_bound time
    p.scheduler.registry.parts.entries hbackdrop
  obtain ⟨events, hcompose⟩ := exists_world_compose time commands p
  have hpainted := Registry.surface_traverse time p.scheduler.registry.parts.entries hbackdrop t
  rw [hcompose, World.noteAll_eq_withJournal]
  show ((p.scheduler.registry.render time p.world.backdrop).2.2.drawAll _).gfx.surface t = _
  rw [Canvas.surface_drawAll _ (hbound ▸ h)]
  rw [World.surface_backdrop p.world h] at hpainted
  exact hpainted

theorem surface_deliver [Image.Library] (status : DrainStatus) (p : Playback Scene Canvas)
    (t : Target) :
    (p.deliver status).2.world.gfx.surface t = p.world.gfx.surface t := by
  let P (w : World Canvas) : Prop := w.gfx.surface t = p.world.gfx.surface t
  have hcall (w : World Canvas) {c : Call} (hclear : c ≠ .clear) (hdraw : ∀ q, c ≠ .draw q)
      (hw : P w) : P (w.after c) :=
    (congrArg (·[t.slot]) (Canvas.surfaces_call w hclear hdraw)).trans hw
  exact deliver_keeps (P := P) (fun w => hcall w (by simp) (by simp))
    (fun w _ => hcall w (by simp) (by simp)) status rfl

/-- What a frame should make of the surface of a target: the parts that run on the target after the
drain take their turns on the surface as it was before. -/
def painted [Image.Library] (reading : Int64) (t : Target) (p : Playback Scene Canvas) :
    Surface :=
  let time := p.timeAt reading
  let drained := p.scheduler.drain time p.world
  (drained.2.1.registry.drawnOn t).foldl (fun s x => x.2.paint time s) (p.world.gfx.surface t)

/-- Commands that leave the surfaces alone and a drain that succeeds leave the painting to the turns
of those parts; when the drain fails, nothing is painted. The turns are taken in the order in which
the bytes of the names put them. -/
theorem surface_step [Image.Library] {p : Playback Scene Canvas}
    (htable : p.scheduler.table.Spares) (reading : Int64) (k : Fin 4) :
    let t := Target.offscreen k
    let drained := p.scheduler.drain (p.timeAt reading) p.world
    (p.step reading).2.world.gfx.surface t =
        (match drained.1 with
          | .ok _ => p.painted reading t
          | .error _ => p.world.gfx.surface t) ∧
      ((drained.2.1.registry.drawnOn t).map (·.1)).Pairwise
        fun n m => Text.utf8 n < Text.utf8 m := by
  intro t drained
  have hspared : drained.2.2.gfx.surface t = p.world.gfx.surface t :=
    congrArg (·[t.slot]) (Scheduler.surfaces_drain htable (p.timeAt reading) p.world)
  refine ⟨?_, ?_⟩
  · rcases hdrain : drained with ⟨result, s, w⟩
    have hpainted : p.painted reading t = (s.registry.drawnOn t).foldl
        (fun s x => x.2.paint (p.timeAt reading) s) (p.world.gfx.surface t) := by
      show (drained.2.1.registry.drawnOn t).foldl _ _ = _
      rw [hdrain]
    rw [hdrain] at hspared
    cases result with
    | error e =>
      rw [step_of_drain_error hdrain]
      exact hspared
    | ok report =>
      rw [step_of_drain hdrain, surface_deliver, surface_compose _ _ _ (by simp [t])]
      dsimp only at hspared ⊢
      rw [hspared, hpainted]
  · have hsorted : ((drained.2.1.registry.drawnOn t).map (·.1)).Pairwise (· < ·) :=
      drained.2.1.registry.parts.sorted.sublist
        ((List.filter_sublist.trans List.filter_sublist).map _)
    exact hsorted.imp fun h => Text.utf8_lt_utf8 h

/-- Parts with another target come between the two that are drawn on the first offscreen target, and
it was bound before the frame. -/
theorem surface_step_between :
    let on (target : Target) (clear : Bool) (color : Color) : Enrolled Scene :=
      ⟨.solid color, ⟨target, clear⟩, .idle⟩
    let parts := [("a", on (.offscreen 0) true ⟨1, 0, 0, 1⟩), ("b", on .framebuffer true .white),
      ("c", on (.offscreen 1) true .white), ("d", on (.offscreen 0) false ⟨0, 0, 1, 0.5⟩),
      ("e", on (.offscreen 0) true .white)]
    let script := "0 START_PART d\n0 START_PART c\n0 START_PART b\n0 START_PART a\n0 FX neg 0 1s\n"
    let p : Playback Scene Canvas :=
      { player := { mode := .live 25 }
        scheduler :=
          { table := .standard
            registry := ⟨parts.foldl (fun m x => m.insert x.1 x.2) .empty⟩
            reader := some (.ofLines ((Text.lines script).map some)) }
        world := { gfx := { Canvas.ofSize 2 1 with bound := .offscreen 0 } } }
    let drained := p.scheduler.drain (p.timeAt 0) p.world
    p.scheduler.table.Spares ∧ drained.1.map (·.status) = .ok .exhausted ∧
      (drained.2.1.registry.drawnOn (.offscreen 0)).map (·.1) = ["a", "d"] ∧
      (p.step 0).2.world.gfx.surface (.offscreen 0) = p.painted 0 (.offscreen 0) ∧
      (p.painted 0 (.offscreen 0)).pixel? 1 0 = some ⟨0.5, 0, 0.5, 1⟩ := by
  intro on parts script p drained
  obtain ⟨hsurface, -⟩ := surface_step (p := p) CommandTable.standard_spares 0 0
  have hstatus : drained.1.map (·.status) = .ok .exhausted := by decide +kernel
  refine ⟨CommandTable.standard_spares, hstatus, by decide +kernel, hsurface.trans ?_,
    by decide +kernel⟩
  rcases hdrained : drained.1 with e | report
  · rw [hdrained] at hstatus
    cases hstatus
  · rfl

/-- A part should fill its target, and a script that cannot be read keeps it from that. A target on
which no part is drawn should stay black, and a handler that draws fills it. -/
theorem surface_step_ne_painted :
    let red : Color := ⟨1, 0, 0, 1⟩
    let w : World Canvas := { gfx := .ofSize 1 1 }
    let t := Target.offscreen 0
    let filling : Enrolled Scene := ⟨.solid red, ⟨t, false⟩, .running 0⟩
    let unreadable : Playback Scene Canvas :=
      { player := { mode := .live 25 }
        scheduler :=
          { table := .standard
            registry := ⟨NameMap.empty.insert "a" filling⟩
            reader := some { feed := .broken .isADirectory } }
        world := w }
    let drawing : Handler Scene Canvas := fun _ _ _ st => (.ok .goOn,
      { st with world := (st.world.after (.bind t)).after (.draw (.fullscreen red)) })
    let meddling : Playback Scene Canvas :=
      { player := { mode := .live 25 }
        scheduler :=
          { table := CommandTable.standard.setHandler .finish drawing
            reader := some (.ofLines [some "0 END"]) }
        world := w }
    let shown (s : Surface) := s.pixel? 0 0
    (unreadable.step 0).1 = .error (.script (.reading 1 .isADirectory)) ∧
      shown ((unreadable.step 0).2.world.gfx.surface t) = some .black ∧
      shown (unreadable.painted 0 t) = some red ∧
      (meddling.step 0).1 = .ok .exhausted ∧
      shown ((meddling.step 0).2.world.gfx.surface t) = some red ∧
      shown (meddling.painted 0 t) = some .black := by
  decide +kernel

end Playback

end DemoReel
