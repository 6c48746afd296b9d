import DemoReel.Graphics.Recorder
import DemoReel.Proofs.Canvas.Calls

/-!
# What is on record

The record of a backend grows by one entry with every call, and whoever draws can only add to it
(`Grows`). Which target is bound can be told from the calls alone, for any backend that lets
nothing but a bind and a reset decide it (`TellsTarget`).
-/

namespace DemoReel

variable {σ μ : Type}

/-- The call writes a file. -/
def Call.isCapture : Call → Bool
  | .capture _ => true
  | _ => false

namespace World

/-- What is on record, the earliest first. -/
def entries (w : World (Recorder μ σ)) : List (Call ⊕ μ) := w.gfx.entries.toList

@[simp] theorem entries_note (w : World (Recorder μ σ)) (e : Event) :
    (w.note e).entries = w.entries := rfl

@[simp] theorem entries_noteAll (w : World (Recorder μ σ)) (es : List Event) :
    (w.noteAll es).entries = w.entries := by
  rw [noteAll_eq_withJournal]
  rfl

section

variable [Graphics σ]

/-- Every call is put on record, also one that fails. -/
@[simp] theorem entries_call (w : World (Recorder μ σ)) (c : Call) :
    (w.call c).2.entries = w.entries ++ [.inl c] := by
  cases c with
  | present =>
    simp only [call, Graphics.perform]
    split
    · simp [entries, Recorder.record]
    · simp [entries, Recorder.record, Recorder.forward]
  | _ => simp [call, Graphics.perform, entries, Recorder.record, Recorder.forward]

@[simp] theorem entries_after (w : World (Recorder μ σ)) (c : Call) :
    (w.after c).entries = w.entries ++ [.inl c] := entries_call w c

@[simp] theorem entries_drawAll (w : World (Recorder μ σ)) (qs : List Quad) :
    (w.drawAll qs).entries = w.entries ++ qs.map fun q => .inl (.draw q) := by
  induction qs generalizing w with
  | nil => simp
  | cons q qs ih => rw [drawAll_cons, ih, entries_after]; simp

end

/-! ## Growing records -/

/-- The record of `w'` is that of `w` and more, and `Q` holds of whatever is new. -/
def Grows (Q : Call ⊕ μ → Prop) (w w' : World (Recorder μ σ)) : Prop :=
  ∃ new, w'.entries = w.entries ++ new ∧ ∀ x ∈ new, Q x

namespace Grows

variable {Q Q' : Call ⊕ μ → Prop} {w w' w₁ w₂ : World (Recorder μ σ)}

theorem of_entries (h : w'.entries = w.entries) : Grows Q w w' := ⟨[], by simp [h], by simp⟩

theorem refl (w : World (Recorder μ σ)) : Grows Q w w := of_entries rfl

theorem trans (h : Grows Q w w₁) (h' : Grows Q w₁ w₂) : Grows Q w w₂ := by
  obtain ⟨new, hentries, hnew⟩ := h
  obtain ⟨new', hentries', hnew'⟩ := h'
  refine ⟨new ++ new', by rw [hentries', hentries, List.append_assoc], fun x hx => ?_⟩
  rcases List.mem_append.1 hx with hx | hx
  · exact hnew x hx
  · exact hnew' x hx

theorem mono (h : Grows Q w w') (hQ : ∀ x, Q x → Q' x) : Grows Q' w w' := by
  obtain ⟨new, hentries, hnew⟩ := h
  exact ⟨new, hentries, fun x hx => hQ x (hnew x hx)⟩

theorem call [Graphics σ] (w : World (Recorder μ σ)) {c : Call} (h : Q (.inl c)) :
    Grows Q w (w.call c).2 := by
  refine ⟨[.inl c], entries_call w c, fun x hx => ?_⟩
  rw [List.mem_singleton.1 hx]
  exact h

theorem after [Graphics σ] (w : World (Recorder μ σ)) {c : Call} (h : Q (.inl c)) :
    Grows Q w (w.after c) := call w h

end Grows

end World

/-! ## The bound target -/

/-- `bound` tells which target of a backend is bound: the one that was bound last. A reset may go
back to the framebuffer, and nothing else has a say in it. -/
structure TellsTarget [Graphics σ] (bound : σ → Target) : Prop where
  bind : ∀ (w : World σ) (t : Target), bound (w.after (.bind t)).gfx = t
  reset : ∀ w : World σ, bound (w.after .reset).gfx = bound w.gfx ∨
    bound (w.after .reset).gfx = .framebuffer
  other : ∀ (w : World σ) (c : Call), (∀ t, c ≠ .bind t) → c ≠ .reset →
    bound (w.call c).2.gfx = bound w.gfx

namespace TellsTarget

variable [Graphics σ] {bound : σ → Target}

theorem clear (h : TellsTarget bound) (w : World σ) : bound (w.after .clear).gfx = bound w.gfx :=
  h.other w .clear (by simp) (by simp)

theorem clearDepth (h : TellsTarget bound) (w : World σ) :
    bound (w.after .clearDepth).gfx = bound w.gfx := h.other w .clearDepth (by simp) (by simp)

theorem drawAll (h : TellsTarget bound) (w : World σ) (qs : List Quad) :
    bound (w.drawAll qs).gfx = bound w.gfx := by
  induction qs generalizing w with
  | nil => rfl
  | cons q qs ih => rw [World.drawAll_cons, ih]; exact h.other w (.draw q) (by simp) (by simp)

/-- A recorder has bound what the backend behind it has bound. -/
theorem recorder (h : TellsTarget bound) : TellsTarget fun g : Recorder μ σ => bound g.inner where
  bind w t := h.bind { w with gfx := w.gfx.inner } t
  reset w := h.reset { w with gfx := w.gfx.inner }
  other w c hbind hreset := by
    have hinner := h.other { w with gfx := w.gfx.inner } c hbind hreset
    cases c with
    | present =>
      simp only [World.call, Graphics.perform]
      split
      · rfl
      · exact hinner
    | bind t => exact absurd rfl (hbind t)
    | reset => exact absurd rfl hreset
    | _ => exact hinner

end TellsTarget

theorem Canvas.tellsTarget_bound [Image.Library] : TellsTarget Canvas.bound where
  bind _ _ := rfl
  reset _ := .inr rfl
  other w c hbind hreset := by
    cases c with
    | clear => rfl
    | clearDepth => rfl
    | draw q => exact bound_draw w.gfx q
    | bind t => exact absurd rfl (hbind t)
    | reset => exact absurd rfl hreset
    | present => rfl
    | loadTexture p =>
      obtain ⟨textures, texturePaths, h⟩ := exists_loadTexture p w
      exact (congrArg bound h :)
    | loadShader p stage =>
      obtain ⟨shaders, h⟩ := exists_loadShader p stage w
      exact (congrArg bound h :)
    | capture p => rfl

end DemoReel
