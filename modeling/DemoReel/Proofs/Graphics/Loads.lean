import DemoReel.Effect.Loading
import DemoReel.Graphics.Recorder
import DemoReel.Graphics.Rehearsal

/-!
# Loads

What a backend answers to loads, and what loading an effect depends on. Main statement: an effect
that is loaded in two worlds which answer loads alike gets the same handles or the same error, by
the same calls (`ofArgs_alike`).
-/

namespace DemoReel

variable {σ τ μ : Type}

/-- The call loads a texture or a shader. -/
def Call.isLoad : Call → Bool
  | .loadTexture _ | .loadShader .. => true
  | _ => false

/-- The file that the call loads. -/
def Call.loaded? : Call → Option Path
  | .loadTexture p | .loadShader p _ => some p
  | _ => none

namespace World

/-- The world behind a recorder. -/
def behind (w : World (Recorder μ σ)) : World σ := { w with gfx := w.gfx.inner }

/-- One world comes from another by the loads `calls`. The journal may be written to between
them. -/
inductive Loaded [Graphics σ] : World σ → List Call → World σ → Prop where
  | done (w : World σ) (journal : Journal) : Loaded w [] (w.withJournal journal)
  | load {w w' : World σ} {c : Call} {calls : List Call} (journal : Journal)
      (isLoad : c.isLoad = true) (later : Loaded ((w.withJournal journal).after c) calls w') :
      Loaded w (c :: calls) w'

/-- Two worlds answer the next load alike whenever the same loads have been made in both. -/
def LoadAlike [Graphics σ] [Graphics τ] (w : World σ) (w' : World τ) : Prop :=
  ∀ calls v v' c, Loaded w calls v → Loaded w' calls v' → c.isLoad = true →
    (v.call c).1 = (v'.call c).1

/-- What a load is answered with depends on the loads before it and on nothing else. -/
def LoadsBySequence [Graphics σ] (w : World σ) : Prop := LoadAlike w w

/-- What a load is answered with depends on the load alone. -/
def LoadsByPath [Graphics σ] (w : World σ) (answer : (c : Call) → c.Reply) : Prop :=
  ∀ calls v c, Loaded w calls v → c.isLoad = true → (v.call c).1 = answer c

namespace Loaded

variable [Graphics σ] {w w₁ w₂ : World σ} {calls calls' : List Call}

theorem of_withJournal {journal : Journal} (h : Loaded (w.withJournal journal) calls w₁) :
    Loaded w calls w₁ := by
  cases h with
  | done _ j => exact .done w j
  | load j isLoad later => exact .load j isLoad later

theorem append (h : Loaded w calls w₁) (h' : Loaded w₁ calls' w₂) :
    Loaded w (calls ++ calls') w₂ := by
  induction h with
  | done w j => exact h'.of_withJournal
  | load j isLoad _ ih => exact .load j isLoad (ih h')

theorem withJournal (h : Loaded w calls w₁) (journal : Journal) :
    Loaded w calls (w₁.withJournal journal) := by
  have h' := h.append (.done w₁ journal)
  rwa [List.append_nil] at h'

/-- One load. -/
theorem single (w : World σ) {c : Call} (h : c.isLoad = true) : Loaded w [c] (w.after c) :=
  .load w.journal h (.done (w.after c) (w.after c).journal)

end Loaded

section

variable [Graphics σ] [Graphics τ] {w v : World σ} {w' v' : World τ} {calls calls' : List Call}

theorem LoadAlike.symm (h : LoadAlike w w') : LoadAlike w' w :=
  fun calls v v' c hv hv' hc => (h calls v' v c hv' hv hc).symm

/-- Worlds that answer loads alike do so after the same loads. -/
theorem LoadAlike.after_loads (h : LoadAlike w w') (hv : Loaded w calls v)
    (hv' : Loaded w' calls v') : LoadAlike v v' :=
  fun calls' u u' c hu hu' hc =>
    h (calls ++ calls') u u' c (hv.append hu) (hv'.append hu') hc

theorem LoadsByPath.after_loads {answer : (c : Call) → c.Reply} (h : LoadsByPath w answer)
    (hv : Loaded w calls v) : LoadsByPath v answer :=
  fun calls' u c hu hc => h (calls ++ calls') u c (hv.append hu) hc

theorem LoadsByPath.alike {answer : (c : Call) → c.Reply} (h : LoadsByPath w answer)
    (h' : LoadsByPath w' answer) : LoadAlike w w' :=
  fun calls v v' c hv hv' hc => (h calls v c hv hc).trans (h' calls v' c hv' hc).symm

end

end World

/-! ## Loading effects -/

section

open World

variable [Graphics σ] [Graphics τ] {α β : Type} {w v : World σ} {w' v' : World τ}
  {calls : List Call} {x : α × World σ} {x' : α × World τ}

/-- Two computations that started in `w` and `w'` have the same result, by the same loads. -/
def LoadedAlike (w : World σ) (w' : World τ) (x : α × World σ) (x' : α × World τ) : Prop :=
  ∃ result calls v v', x = (result, v) ∧ x' = (result, v') ∧ Loaded w calls v ∧
    Loaded w' calls v'

namespace LoadedAlike

theorem pure (w : World σ) (w' : World τ) (result : α) :
    LoadedAlike w w' (result, w) (result, w') :=
  ⟨result, [], w, w', rfl, rfl, .done w w.journal, .done w' w'.journal⟩

theorem of_after (hv : Loaded w calls v) (hv' : Loaded w' calls v') (h : LoadedAlike v v' x x') :
    LoadedAlike w w' x x' := by
  obtain ⟨result, calls', u, u', hx, hx', hu, hu'⟩ := h
  exact ⟨result, calls ++ calls', u, u', hx, hx', hv.append hu, hv'.append hu'⟩

theorem map (h : LoadedAlike w w' x x') (f : α → β) :
    LoadedAlike w w' (f x.1, x.2) (f x'.1, x'.2) := by
  obtain ⟨result, calls, v, v', rfl, rfl, hv, hv'⟩ := h
  exact ⟨f result, calls, v, v', rfl, rfl, hv, hv'⟩

end LoadedAlike

theorem World.LoadAlike.call (h : LoadAlike w w') (c : Call) (hc : c.isLoad = true) :
    LoadedAlike w w' (w.call c) (w'.call c) := by
  have hreply : (w.call c).1 = (w'.call c).1 :=
    h [] w w' c (.done w w.journal) (.done w' w'.journal) hc
  exact ⟨(w.call c).1, [c], w.after c, w'.after c, rfl, Prod.ext hreply.symm rfl,
    .single w hc, .single w' hc⟩

theorem TextureName.load_alike (h : LoadAlike w w') (assets : Assets) (name : TextureName) :
    LoadedAlike w w' (name.load assets w) (name.load assets w') := by
  cases name with
  | target t => exact .pure w w' _
  | file name =>
    exact (h.call (.loadTexture (assets.resolve name)) rfl).map (Except.map Texture.loaded)

theorem TextureName.load?_alike (h : LoadAlike w w') (assets : Assets)
    (name : Option TextureName) :
    LoadedAlike w w' (TextureName.load? assets w name) (TextureName.load? assets w' name) := by
  cases name with
  | none => exact .pure w w' _
  | some name => exact (name.load_alike h assets).map (Except.map some)

theorem loadShader?_alike (h : LoadAlike w w') (assets : Assets) (name : Option String) :
    LoadedAlike w w' (loadShader? assets w name) (loadShader? assets w' name) := by
  cases name with
  | none => exact .pure w w' _
  | some name =>
    exact (h.call (.loadShader (assets.resolve name) .fragment) rfl).map (Except.map some)

theorem EffectContent.load_alike (h : LoadAlike w w') (assets : Assets)
    (content : EffectContent TextureName String) :
    LoadedAlike w w' (content.load assets w) (content.load assets w') := by
  cases content with
  | negative => exact .pure w w' _
  | flash color => exact .pure w w' _
  | fade first firstTexture second secondTexture =>
    obtain ⟨result, calls, v, v', hx, hx', hv, hv'⟩ :=
      TextureName.load?_alike h assets firstTexture
    simp only [load, hx, hx']
    refine .of_after hv hv' ?_
    cases result with
    | error e => exact .pure v v' _
    | ok texture =>
      obtain ⟨result, calls', u, u', hy, hy', hu, hu'⟩ :=
        TextureName.load?_alike (h.after_loads hv hv') assets secondTexture
      simp only [hy, hy']
      refine .of_after hu hu' ?_
      cases result with
      | error e => exact .pure u u' _
      | ok texture' => exact .pure u u' _
  | overlay texture shader =>
    obtain ⟨result, calls, v, v', hx, hx', hv, hv'⟩ := texture.load_alike h assets
    simp only [load, hx, hx']
    refine .of_after hv hv' ?_
    cases result with
    | error e => exact .pure v v' _
    | ok texture =>
      obtain ⟨result, calls', u, u', hy, hy', hu, hu'⟩ :=
        loadShader?_alike (h.after_loads hv hv') assets shader
      simp only [hy, hy']
      refine .of_after hu hu' ?_
      cases result with
      | error e => exact .pure u u' _
      | ok shader => exact .pure u u' _

theorem Effect.load_alike (h : LoadAlike w w') (assets : Assets) (draft : EffectDraft) :
    LoadedAlike w w' (load assets draft w) (load assets draft w') :=
  (draft.content.load_alike h assets).map
    (Except.map fun content => ({ window := draft.window, content } : ImageEffect))

theorem Effect.ofArgs_alike (h : LoadAlike w w') (assets : Assets) (args : List String) :
    LoadedAlike w w' (ofArgs assets args w) (ofArgs assets args w') := by
  unfold ofArgs
  cases EffectDraft.ofArgs args with
  | error e => exact .pure w w' _
  | ok draft => exact (load_alike h assets draft).map (Except.mapError EffectError.resource)

end

/-! ## The world after an effect was loaded -/

section

open World

variable [Graphics σ] {P : World σ → Prop} {w : World σ}

/-- What holds of a world holds after any load. -/
def World.KeptByLoads (P : World σ → Prop) : Prop :=
  ∀ (w : World σ) (c : Call), c.isLoad = true → P w → P (w.after c)

/-- What holds of a world holds after any load of an asset name. -/
def World.KeptByAssets (assets : Assets) (P : World σ → Prop) : Prop :=
  ∀ (w : World σ) (c : Call) (name : String), c.loaded? = some (assets.resolve name) → P w →
    P (w.after c)

variable {assets : Assets}

theorem World.KeptByLoads.keptByAssets (hP : KeptByLoads P) (assets : Assets) :
    KeptByAssets assets P := by
  intro w c name hc hw
  refine hP w c ?_ hw
  cases c with
  | loadTexture | loadShader => rfl
  | _ => cases hc

theorem TextureName.load_keeps (hP : KeptByAssets assets P) (hw : P w) (name : TextureName) :
    P (name.load assets w).2 := by
  cases name with
  | target t => exact hw
  | file name => exact hP w _ name rfl hw

theorem TextureName.load?_keeps (hP : KeptByAssets assets P) (hw : P w)
    (name : Option TextureName) : P (TextureName.load? assets w name).2 := by
  cases name with
  | none => exact hw
  | some name => exact name.load_keeps hP hw

theorem loadShader?_keeps (hP : KeptByAssets assets P) (hw : P w) (name : Option String) :
    P (loadShader? assets w name).2 := by
  cases name with
  | none => exact hw
  | some name => exact hP w _ name rfl hw

theorem EffectContent.load_keeps (hP : KeptByAssets assets P) (hw : P w)
    (content : EffectContent TextureName String) : P (content.load assets w).2 := by
  cases content with
  | negative => exact hw
  | flash color => exact hw
  | fade first firstTexture second secondTexture =>
    have hfirst := TextureName.load?_keeps hP hw firstTexture
    simp only [load]
    split
    · next heq => rwa [heq] at hfirst
    · next v heq =>
      rw [heq] at hfirst
      have hsecond := TextureName.load?_keeps hP hfirst secondTexture
      split <;> next heq' => rwa [heq'] at hsecond
  | overlay texture shader =>
    have htexture := texture.load_keeps hP hw
    simp only [load]
    split
    · next heq => rwa [heq] at htexture
    · next v heq =>
      rw [heq] at htexture
      have hshader := loadShader?_keeps hP htexture shader
      split <;> next heq' => rwa [heq'] at hshader

/-- Reading an effect keeps what loads of its asset names keep, whatever comes of it. -/
theorem Effect.ofArgs_keeps_of_assets (hP : KeptByAssets assets P) (hw : P w)
    (args : List String) : P (ofArgs assets args w).2 := by
  unfold ofArgs
  cases EffectDraft.ofArgs args with
  | error e => exact hw
  | ok draft => exact draft.content.load_keeps hP hw

theorem Effect.ofArgs_keeps (hP : KeptByLoads P) (hw : P w)
    (assets : Assets) (args : List String) : P (ofArgs assets args w).2 :=
  ofArgs_keeps_of_assets (hP.keptByAssets assets) hw args

/-- Reading an effect does nothing to the world but load. -/
theorem Effect.exists_loaded_ofArgs (assets : Assets) (args : List String) (w : World σ) :
    ∃ calls, Loaded w calls (ofArgs assets args w).2 := by
  refine ofArgs_keeps (P := fun v => ∃ calls, Loaded w calls v) (fun v c hc hv => ?_)
    ⟨[], .done w w.journal⟩ assets args
  obtain ⟨calls, hloaded⟩ := hv
  exact ⟨calls ++ [c], hloaded.append (.single v hc)⟩

end

/-! ## Recorders -/

namespace Recorder

open World

variable [Graphics σ] {w v : World (Recorder μ σ)} {calls : List Call}

theorem call_of_isLoad (w : World (Recorder μ σ)) {c : Call} (h : c.isLoad = true) :
    w.call c = forward c (record c w) := by
  cases c with
  | loadTexture | loadShader => rfl
  | _ => simp [Call.isLoad] at h

/-- A recorder passes loads on and writes them down. -/
theorem loaded_behind (h : Loaded w calls v) :
    Loaded w.behind calls v.behind ∧
      v.gfx.entries.toList = w.gfx.entries.toList ++ calls.map Sum.inl := by
  induction h with
  | done w j => exact ⟨.done w.behind j, by simp [World.withJournal]⟩
  | @load w w' c calls j hc later ih =>
    have hafter : (w.withJournal j).after c = (forward c (record c (w.withJournal j))).2 :=
      congrArg Prod.snd (call_of_isLoad _ hc)
    rw [hafter] at ih
    refine ⟨.load j hc ih.1, ih.2.trans ?_⟩
    simp [forward, record, World.withJournal]

/-- Recorders answer loads alike if the backends behind them do. -/
theorem loadAlike_of_behind {w' : World (Recorder μ σ)} (h : LoadAlike w.behind w'.behind) :
    LoadAlike w w' := by
  intro calls v v' c hv hv' hc
  rw [call_of_isLoad v hc, call_of_isLoad v' hc]
  exact h calls v.behind v'.behind c (loaded_behind hv).1 (loaded_behind hv').1 hc

end Recorder

/-! ## Backends that go by their own state -/

namespace World

/-- A backend that looks at nothing but its own state answers loads by the loads before them. -/
theorem loadsBySequence_of_gfx [Graphics σ]
    (h : ∀ (v v' : World σ) (c : Call), v.gfx = v'.gfx →
      (v.call c).1 = (v'.call c).1 ∧ (v.after c).gfx = (v'.after c).gfx) (w : World σ) :
    w.LoadsBySequence := by
  have sameState : ∀ {calls : List Call} {u v u' v' : World σ}, u.gfx = u'.gfx →
      Loaded u calls v → Loaded u' calls v' → v.gfx = v'.gfx := by
    intro calls
    induction calls with
    | nil =>
      intro u v u' v' hgfx hv hv'
      cases hv
      cases hv'
      exact hgfx
    | cons c calls ih =>
      intro u v u' v' hgfx hv hv'
      cases hv with
      | load j hc later =>
        cases hv' with
        | load j' _ later' =>
          have hnow := h (u.withJournal j) (u'.withJournal j') c hgfx
          exact ih hnow.2 later later'
  intro calls v v' c hv hv' _
  exact (h v v' c (sameState rfl hv hv')).1

end World

theorem Rehearsal.loadsBySequence (w : World Rehearsal) : w.LoadsBySequence := by
  refine World.loadsBySequence_of_gfx (fun v v' c hgfx => ?_) w
  cases c with
  | loadTexture p | loadShader p _ =>
    simp only [World.call, World.after, Graphics.perform, hgfx]
    split
    · exact ⟨rfl, hgfx⟩
    · exact ⟨rfl, rfl⟩
  | _ => exact ⟨rfl, hgfx⟩

/-- A backend that draws nothing and can load the files it lists. The handle of a file is its place
in the list. -/
structure Catalog where
  files : List Path

namespace Catalog

/-- What the catalog answers, whatever was asked before. -/
def answer (catalog : Catalog) : (c : Call) → c.Reply
  | .clear | .clearDepth | .draw _ | .bind _ | .reset => ()
  | .present | .capture _ => .ok ()
  | .loadTexture p =>
    match catalog.files.findIdx? (·.same p) with
    | some place => .ok ⟨UInt32.ofNat place⟩
    | none => .error (.texture p .notFound)
  | .loadShader p _ =>
    match catalog.files.findIdx? (·.same p) with
    | some place => .ok ⟨UInt32.ofNat place⟩
    | none => .error (.shader p .notFound)

instance : Graphics Catalog where
  perform c w := (w.gfx.answer c, w)

theorem loadsByPath (w : World Catalog) : w.LoadsByPath w.gfx.answer := by
  have sameFiles : ∀ {w v : World Catalog} {calls : List Call}, World.Loaded w calls v →
      v.gfx = w.gfx := by
    intro w v calls h
    induction h with
    | done => rfl
    | load j hc later ih => exact ih
  intro calls v c hv _
  rw [← sameFiles hv]
  rfl

end Catalog

end DemoReel
