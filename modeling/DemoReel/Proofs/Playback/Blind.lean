import DemoReel.Part.Scene
import DemoReel.Proofs.Effect.Pruning
import DemoReel.Proofs.Graphics.Loads
import DemoReel.Proofs.Playback.Standard
import DemoReel.Script.Reader

/-!
# The journal is written and not read

Playback reports what it does, and nothing that it does depends on the reports, as long as the
backend and the parts do not look at them. Main statements: drawing parts, reading a script and
carrying out a command of the standard table have the same result in two worlds that differ in
nothing but their journals (`Registry.render_alike`, `Script.Reader.next_alike`,
`CommandTable.standard_addsBlindly`).
-/

namespace DemoReel

open Number

variable {π σ μ α β : Type}

namespace World

/-- Two worlds that differ in nothing but their journals. -/
structure Alike (w w' : World σ) : Prop where
  gfx : w.gfx = w'.gfx
  disk : w.disk = w'.disk

namespace Alike

variable {w w' : World σ}

theorem refl (w : World σ) : Alike w w := ⟨rfl, rfl⟩

theorem withJournal (h : Alike w w') (j j' : Journal) :
    Alike (w.withJournal j) (w'.withJournal j') := ⟨h.gfx, h.disk⟩

theorem note (h : Alike w w') (e e' : Event) : Alike (w.note e) (w'.note e') := ⟨h.gfx, h.disk⟩

theorem noteAll (h : Alike w w') (es es' : List Event) : Alike (w.noteAll es) (w'.noteAll es') := by
  rw [noteAll_eq_withJournal, noteAll_eq_withJournal]
  exact h.withJournal _ _

end Alike

end World

open World (Alike Loaded LoadAlike)

/-- Two computations have the same result, and leave worlds that differ in nothing but their
journals. -/
def EndAlike (x x' : α × World σ) : Prop := x.1 = x'.1 ∧ x.2.Alike x'.2

/-- A backend that does not look at the journal. -/
def Graphics.Blind (σ : Type) [Graphics σ] : Prop :=
  ∀ (c : Call) (w w' : World σ), w.Alike w' → EndAlike (w.call c) (w'.call c)

/-- Parts that do not look at the journal. -/
def Part.Blind (π σ : Type) [Part π σ] : Prop :=
  ∀ (p : π) (frame : Frame) (w w' : World σ), w.Alike w' →
    (Part.render p frame w).1 = (Part.render p frame w').1 ∧
      EndAlike (Part.render p frame w).2 (Part.render p frame w').2

/-! ## Calls -/

section

variable [Graphics σ] (hσ : Graphics.Blind σ) {w w' v v' : World σ}

include hσ

theorem World.Alike.after (h : w.Alike w') (c : Call) : (w.after c).Alike (w'.after c) :=
  (hσ c w w' h).2

theorem World.Alike.drawAll (h : w.Alike w') (qs : List Quad) :
    (w.drawAll qs).Alike (w'.drawAll qs) := by
  induction qs generalizing w w' with
  | nil => exact h
  | cons q qs ih => exact ih (h.after hσ (.draw q))

theorem World.Alike.loaded (h : w.Alike w') {calls : List Call} (hv : Loaded w calls v)
    (hv' : Loaded w' calls v') : v.Alike v' := by
  induction hv generalizing w' v' with
  | done w j =>
    cases hv' with
    | done _ j' => exact h.withJournal j j'
  | @load w v c calls j hc later ih =>
    cases hv' with
    | load j' _ later' => exact ih ((h.withJournal j j').after hσ c) later'

theorem World.Alike.loadAlike (h : w.Alike w') : LoadAlike w w' :=
  fun _ v v' c hv hv' _ => (hσ c v v' (h.loaded hσ hv hv')).1

theorem Effect.ofArgs_endAlike (h : w.Alike w') (assets : Assets) (args : List String) :
    EndAlike (ofArgs assets args w) (ofArgs assets args w') := by
  obtain ⟨result, calls, v, v', hx, hx', hv, hv'⟩ :=
    Effect.ofArgs_alike (h.loadAlike hσ) assets args
  rw [hx, hx']
  exact ⟨rfl, h.loaded hσ hv hv'⟩

/-- What a recorder does is blind if the backend behind it is. -/
theorem Recorder.blind : Graphics.Blind (Recorder μ σ) := by
  intro c w w' h
  have hrecord : (record c w).Alike (record c w') := ⟨by simp only [record, h.gfx], h.disk⟩
  have hforward : EndAlike (forward c (record c w)) (forward c (record c w')) := by
    have hinner := hσ c { record c w with gfx := (record c w').gfx.inner }
      { record c w' with gfx := (record c w').gfx.inner } ⟨rfl, hrecord.disk⟩
    simp only [forward, hrecord.gfx]
    exact ⟨hinner.1, congrArg (fun inner => ({ (record c w').gfx with inner } : Recorder μ σ))
      hinner.2.gfx, hinner.2.disk⟩
  cases c with
  | present =>
    simp only [World.call, Graphics.perform, h.gfx]
    split
    · exact ⟨rfl, hrecord⟩
    · exact hforward
  | _ => exact hforward

end

theorem Rehearsal.blind : Graphics.Blind Rehearsal := by
  intro c w w' h
  cases c with
  | loadTexture p | loadShader p _ =>
    simp only [World.call, Graphics.perform, h.gfx]
    split
    · exact ⟨rfl, h⟩
    · exact ⟨rfl, rfl, h.disk⟩
  | _ => exact ⟨rfl, h⟩

theorem Scene.blind [Graphics σ] (hσ : Graphics.Blind σ) : Part.Blind Scene σ :=
  fun _ _ _ _ h => ⟨rfl, rfl, h.after hσ _⟩

/-! ## Parts -/

namespace Registry

section

variable [Graphics σ] (hσ : Graphics.Blind σ) {w w' : World σ}

include hσ

theorem prepare_alike (h : w.Alike w') (s : PartSettings) : (prepare s w).Alike (prepare s w') := by
  have htarget : (if s.target = .framebuffer then w else w.after (.bind s.target)).Alike
      (if s.target = .framebuffer then w' else w'.after (.bind s.target)) := by
    split
    · exact h
    · exact h.after hσ _
  unfold prepare
  dsimp only
  split
  · exact (htarget.after hσ .clear).after hσ .clearDepth
  · exact htarget

theorem restore_alike (h : w.Alike w') : (restore w).Alike (restore w') :=
  (h.after hσ (.bind .framebuffer)).after hσ .reset

variable [Part π σ] (hπ : Part.Blind π σ)

include hπ

theorem renderEntry_alike (h : w.Alike w') (time : Int) (name : String) (e : Enrolled π) :
    EndAlike (renderEntry time name e w) (renderEntry time name e w') := by
  cases he : e.status with
  | idle =>
    simp only [renderEntry, he]
    exact ⟨rfl, h⟩
  | running since =>
    obtain ⟨hresult, hpart, hworld⟩ := hπ e.part { time, elapsed := wrapInt64 (time - since) }
      (prepare e.settings w) (prepare e.settings w') (prepare_alike hσ h e.settings)
    simp only [renderEntry, he, hresult, hpart]
    refine ⟨rfl, restore_alike hσ ?_⟩
    split
    · exact hworld
    · exact hworld.note _ _

theorem traverse_alike (h : w.Alike w') (time : Int) (l : List (String × Enrolled π)) :
    EndAlike (NameMap.traverseList (renderEntry time) l w)
      (NameMap.traverseList (renderEntry time) l w') := by
  induction l generalizing w w' with
  | nil => exact ⟨rfl, h⟩
  | cons x rest ih =>
    obtain ⟨name, e⟩ := x
    obtain ⟨hentry, hworld⟩ := renderEntry_alike hσ hπ h time name e
    obtain ⟨hrest, hlast⟩ := ih hworld
    simp only [NameMap.traverseList, hentry, hrest]
    exact ⟨rfl, hlast⟩

theorem render_alike (h : w.Alike w') (r : Registry π) (time : Int) :
    (r.render time w).1 = (r.render time w').1 ∧
      EndAlike (r.render time w).2 (r.render time w').2 := by
  obtain ⟨hparts, hworld⟩ := traverse_alike hσ hπ h time r.parts.entries
  exact ⟨rfl, congrArg Registry.mk (NameMap.ext hparts), hworld⟩

end

end Registry

/-! ## Scripts -/

namespace Script

theorem scan_alike (n : Nat) (j j' : Journal) (ls : List (Option String)) :
    (scan n j ls).found = (scan n j' ls).found ∧ (scan n j ls).rest = (scan n j' ls).rest ∧
      (scan n j ls).linesRead = (scan n j' ls).linesRead := by
  induction ls generalizing n j j' with
  | nil => exact ⟨rfl, rfl, rfl⟩
  | cons l rest ih =>
    cases l with
    | none => exact ⟨rfl, rfl, rfl⟩
    | some raw =>
      simp only [scan]
      split
      · exact ih (n + 1) j j'
      · exact ih (n + 1) _ _
      · exact ⟨rfl, rfl, rfl⟩

namespace Reader

theorem fill_alike (r : Reader) (j j' : Journal) :
    (r.fill j).1 = (r.fill j').1 ∧ (r.fill j).2.1 = (r.fill j').2.1 := by
  unfold fill
  split
  · exact ⟨rfl, rfl⟩
  · split
    · exact ⟨rfl, rfl⟩
    · next ls _ =>
      obtain ⟨hfound, hrest, hread⟩ := scan_alike r.linesRead j j' ls
      simp only [hfound, hrest, hread]
      split <;> exact ⟨rfl, rfl⟩

theorem next_alike (r : Reader) (time : Int) (j j' : Journal) :
    (r.next time j).1 = (r.next time j').1 ∧ (r.next time j).2.1 = (r.next time j').2.1 := by
  obtain ⟨hresult, hreader⟩ := fill_alike r j j'
  unfold next
  cases hfill : r.fill j with
  | mk result rest =>
    obtain ⟨reader, journal⟩ := rest
    cases hfill' : r.fill j' with
    | mk result' rest' =>
      obtain ⟨reader', journal'⟩ := rest'
      rw [hfill, hfill'] at hresult hreader
      simp only at hresult hreader
      subst hresult hreader
      cases result with
      | error e => exact ⟨rfl, rfl⟩
      | ok _ =>
        simp only
        split
        · exact ⟨rfl, rfl⟩
        · split <;> exact ⟨rfl, rfl⟩

end Reader

end Script

/-! ## Commands -/

/-- A table whose handlers look neither at the journal nor at the effects that are there. They may
look at the number that the next effect gets. -/
def CommandTable.ActsBlindly (t : CommandTable π σ) : Prop :=
  ∀ c assets time (st st' : Stage π σ), st.registry = st'.registry →
    st.timeline.nextId = st'.timeline.nextId → st.world.Alike st'.world →
      let x := t.dispatch c assets time st
      let x' := t.dispatch c assets time st'
      x.1 = x'.1 ∧ x.2.registry = x'.2.registry ∧ x.2.world.Alike x'.2.world ∧
        ∃ changes : List Timeline.Change,
          x.2.timeline = changes.foldl Timeline.changed st.timeline ∧
          x'.2.timeline = changes.foldl Timeline.changed st'.timeline

theorem CommandTable.standard_actsBlindly [Graphics σ] (hσ : Graphics.Blind σ) :
    (standard : CommandTable π σ).ActsBlindly := by
  intro c assets time st st' hregistry _ hworld
  simp only [dispatch_eq_carryOut]
  cases c.deed with
  | refuse why => exact ⟨rfl, hregistry, hworld, [], rfl, rfl⟩
  | finish => exact ⟨rfl, hregistry, hworld, [], rfl, rfl⟩
  | ask request =>
    simp only [Deed.carryOut, Handler.updating, hregistry]
    split
    · exact ⟨rfl, hregistry, hworld, [], rfl, rfl⟩
    · exact ⟨rfl, rfl, hworld.noteAll _ _, [], rfl, rfl⟩
  | load c =>
    obtain ⟨hresult, hloaded⟩ := Effect.ofArgs_endAlike hσ hworld assets c.args
    simp only [Deed.carryOut, Handler.effect]
    cases hx : Effect.ofArgs assets c.args st.world with
    | mk result w =>
      cases hx' : Effect.ofArgs assets c.args st'.world with
      | mk result' w' =>
        rw [hx, hx'] at hresult hloaded
        simp only at hresult hloaded
        subst hresult
        cases result with
        | error why => exact ⟨rfl, hregistry, hloaded, [], rfl, rfl⟩
        | ok e => exact ⟨rfl, hregistry, hloaded.note _ _, [.add e], rfl, rfl⟩

end DemoReel
