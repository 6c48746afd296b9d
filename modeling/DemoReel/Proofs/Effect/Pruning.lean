import DemoReel.Proofs.Playback.Frame

/-!
# Pruning a timeline

A timeline that prunes itself beside one that does not. The one lacks effects that the other still
has, but none that can show again (`Prunes`). Main statements: at times that do not go back both
show the same (`Prunes.quads_eq`), and they stay related when the one has pruned itself
(`Prunes.prune`).
-/

namespace DemoReel

variable {σ : Type}

/-- What is over stays over. -/
theorem Window.expired_mono {w : Window} {time later : Int} (h : w.expired time = true)
    (hle : time ≤ later) : w.expired later = true :=
  expired_iff.2 (Int.le_trans (expired_iff.1 h) hle)

/-- An effect is not over, as far as can be told from the last time at which effects were drawn. -/
def survives (last : Option Int) (e : Nat × ImageEffect) : Bool :=
  !last.any (e.2.window.expired ·)

theorem survives_of_contains {last : Option Int} {time : Int} (h : ∀ t ∈ last, t ≤ time)
    {e : Nat × ImageEffect} (he : e.2.window.contains time = true) : survives last e = true := by
  cases last with
  | none => rfl
  | some t =>
    have hopen := Window.not_expired_of_contains he
    cases hover : e.2.window.expired t with
    | true =>
      rw [Window.expired_mono hover (h t rfl)] at hopen
      exact absurd hopen (by simp)
    | false => simp [survives, hover]

theorem survives_of_later {last : Option Int} {time : Int} (h : ∀ t ∈ last, t ≤ time)
    {e : Nat × ImageEffect} (he : survives (some time) e = true) : survives last e = true := by
  cases last with
  | none => rfl
  | some t =>
    cases hover : e.2.window.expired t with
    | true => simp [survives, Window.expired_mono hover (h t rfl)] at he
    | false => simp [survives, hover]

/-- What is kept by a stronger test can be told from what is kept by a weaker one. -/
theorem filter_eq_of_imp {α : Type} {p q : α → Bool} (h : ∀ a, p a = true → q a = true)
    {l l' : List α} (heq : l.filter q = l'.filter q) : l.filter p = l'.filter p := by
  have hfilter : ∀ l : List α, (l.filter q).filter p = l.filter p := by
    intro l
    rw [List.filter_filter]
    refine List.filter_congr fun a _ => ?_
    cases hp : p a with
    | true => simp [h a hp]
    | false => rfl
  rw [← hfilter l, heq, hfilter l']

namespace Timeline

/-- What can be done to a timeline without a look at the effects that are there. -/
inductive Change where
  | add (e : ImageEffect)
  | remove (id : Nat)
  | clear

def changed (t : Timeline) : Change → Timeline
  | .add e => (t.add e).2
  | .remove id => (t.remove id).2
  | .clear => t.clear

/-- `t` prunes itself and `t'` does not. Apart from that, `t` lacks nothing but effects that were
over when effects were last drawn. -/
structure Prunes (last : Option Int) (t t' : Timeline) : Prop where
  on : t.autoPrune = true
  off : t'.autoPrune = false
  nextId : t.nextId = t'.nextId
  sublist : t.effects.Sublist t'.effects
  surviving : t.effects.filter (survives last) = t'.effects.filter (survives last)

theorem prunes_setAutoPrune (t : Timeline) :
    Prunes none (t.setAutoPrune true) (t.setAutoPrune false) :=
  ⟨rfl, rfl, rfl, List.Sublist.refl _, rfl⟩

namespace Prunes

variable {last : Option Int} {t t' : Timeline}

/-- What is missing is over. -/
theorem mem_of_survives (h : Prunes last t t') {e : Nat × ImageEffect} (he : e ∈ t'.effects)
    (hlast : survives last e = true) : e ∈ t.effects := by
  have hmem : e ∈ t'.effects.filter (survives last) := List.mem_filter.2 ⟨he, hlast⟩
  rw [← h.surviving] at hmem
  exact List.mem_of_mem_filter hmem

theorem add (h : Prunes last t t') (e : ImageEffect) :
    Prunes last (t.add e).2 (t'.add e).2 := by
  refine ⟨h.on, h.off, congrArg (· + 1) h.nextId, ?_, ?_⟩
  · simp only [Timeline.add, h.nextId]
    exact h.sublist.append (List.Sublist.refl _)
  · simp only [Timeline.add, List.filter_append, h.nextId, h.surviving]

theorem remove (h : Prunes last t t') (id : Nat) :
    Prunes last (t.remove id).2 (t'.remove id).2 := by
  refine ⟨h.on, h.off, h.nextId, h.sublist.filter _, ?_⟩
  have hswap : ∀ l : List (Nat × ImageEffect), (l.filter (·.1 ≠ id)).filter (survives last) =
      (l.filter (survives last)).filter (·.1 ≠ id) := by
    intro l
    rw [List.filter_filter, List.filter_filter]
    exact List.filter_congr fun e _ => Bool.and_comm _ _
  simp only [Timeline.remove, hswap, h.surviving]

/-- Without effects there is nothing to prune. -/
theorem clear (h : Prunes last t t') (last' : Option Int) : Prunes last' t.clear t'.clear :=
  ⟨h.on, h.off, h.nextId, List.Sublist.refl _, rfl⟩

theorem changed (h : Prunes last t t') (changes : List Change) :
    Prunes last (changes.foldl Timeline.changed t) (changes.foldl Timeline.changed t') := by
  induction changes generalizing t t' with
  | nil => exact h
  | cons change changes ih =>
    refine ih ?_
    cases change with
    | add e => exact h.add e
    | remove id => exact h.remove id
    | clear => exact h.clear last

theorem activeAt_eq (h : Prunes last t t') {time : Int} (hlast : ∀ l ∈ last, l ≤ time) :
    t.activeAt time = t'.activeAt time :=
  filter_eq_of_imp (fun _ => survives_of_contains hlast) h.surviving

theorem quads_eq (h : Prunes last t t') {time : Int} (hlast : ∀ l ∈ last, l ≤ time) :
    t.quads time = t'.quads time := by
  rw [quads_eq_shownQuads, quads_eq_shownQuads, shownQuads, h.activeAt_eq hlast, shownQuads]

theorem prune (h : Prunes last t t') {time : Int} (hlast : ∀ l ∈ last, l ≤ time) :
    Prunes (some time) (t.prune time).2 t' := by
  refine ⟨h.on, h.off, h.nextId, List.filter_sublist.trans h.sublist, ?_⟩
  have hpruned : (t.prune time).2.effects = t.effects.filter (survives (some time)) := rfl
  rw [hpruned, List.filter_filter]
  simp only [Bool.and_self]
  -- What was taken out before was over then, and so it is over now.
  exact filter_eq_of_imp (fun _ => survives_of_later hlast) h.surviving

end Prunes

end Timeline

end DemoReel
