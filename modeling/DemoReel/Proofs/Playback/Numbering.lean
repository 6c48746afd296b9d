import DemoReel.Playback.Scheduler

/-!
# Numbers of effects

What can be relied on about the numbers that a timeline gives to effects, whatever is done to it and
however often the script starts over. A later timeline consists of effects that the earlier one had
and of effects that were added since, which have new numbers (`Timeline.Grown`). Main statement: the
numbers ascend in the order in which effects were added, and a number means the effect that it was
given to for as long as that is there, and nothing ever after (`Scheduler.numbersLast`).
-/

namespace DemoReel

variable {π σ : Type}

namespace Timeline

variable {t t' t₁ t₂ : Timeline} {id : Nat} {e : ImageEffect}

/-! ## Numbers in order -/

/-- The numbers ascend, and all of them have been given out. -/
structure Ordered (t : Timeline) : Prop where
  ascending : t.ids.Pairwise (· < ·)
  below : ∀ id ∈ t.ids, id < t.nextId

theorem ordered_empty (on : Bool) : Ordered { autoPrune := on } :=
  ⟨.nil, fun _ h => absurd h List.not_mem_nil⟩

/-- Under a number there is the one effect that has it. -/
theorem Ordered.get?_eq_some_iff (h : t.Ordered) : t.get? id = some e ↔ (id, e) ∈ t.effects := by
  rw [get?, List.lookup_eq_some_iff]
  constructor
  · rintro ⟨front, back, heq, -⟩
    rw [heq]
    exact List.mem_append_right _ List.mem_cons_self
  · intro hmem
    obtain ⟨front, back, heq⟩ := List.append_of_mem hmem
    refine ⟨front, back, heq, fun x hx => ?_⟩
    have hasc := h.ascending
    rw [ids, heq, List.map_append, List.pairwise_append] at hasc
    have hlt : x.1 < id :=
      hasc.2.2 x.1 (List.mem_map_of_mem hx) id (List.mem_map_of_mem List.mem_cons_self)
    exact bne_iff_ne.2 (Nat.ne_of_gt hlt)

theorem Ordered.lt_of_get? (h : t.Ordered) (hget : t.get? id = some e) : id < t.nextId :=
  h.below id (List.mem_map_of_mem (h.get?_eq_some_iff.1 hget))

/-- Where there is no effect under a number, there is none to take out. -/
theorem remove_of_get?_eq_none (h : t.get? id = none) : t.remove id = (none, t) := by
  have hkept : t.effects.filter (·.1 ≠ id) = t.effects := by
    refine List.filter_eq_self.2 fun x hx => ?_
    have hne := bne_iff_ne.1 (List.lookup_eq_none_iff.1 h x hx)
    exact decide_eq_true (Ne.symm hne)
  simp only [remove, hkept, h]

/-- The effect under a number is taken out and handed back, and no other. -/
theorem Ordered.exists_remove (h : t.Ordered) (hget : t.get? id = some e) :
    (t.remove id).1 = some e ∧ ∃ front back, t.effects = front ++ (id, e) :: back ∧
      (t.remove id).2.effects = front ++ back := by
  obtain ⟨front, back, heq⟩ := List.append_of_mem (h.get?_eq_some_iff.1 hget)
  refine ⟨hget, front, back, heq, ?_⟩
  have hasc := h.ascending
  rw [ids, heq, List.map_append, List.map_cons, List.pairwise_append, List.pairwise_cons] at hasc
  obtain ⟨-, ⟨hback, -⟩, hfront⟩ := hasc
  have hkept : ∀ x ∈ front ++ back, x.1 ≠ id := by
    intro x hx
    rcases List.mem_append.1 hx with hx | hx
    · exact Nat.ne_of_lt (hfront x.1 (List.mem_map_of_mem hx) id List.mem_cons_self)
    · exact Nat.ne_of_gt (hback x.1 (List.mem_map_of_mem hx))
  show t.effects.filter (·.1 ≠ id) = front ++ back
  rw [heq, List.filter_append, List.filter_cons_of_neg (by simp), ← List.filter_append]
  exact List.filter_eq_self.2 fun x hx => decide_eq_true (hkept x hx)

theorem Ordered.prune (h : t.Ordered) (time : Int) : (t.prune time).2.Ordered := by
  have hids : (t.prune time).2.ids.Sublist t.ids := List.filter_sublist.map _
  exact ⟨h.ascending.sublist hids, fun id hid => h.below id (hids.subset hid)⟩

/-! ## Later timelines -/

/-- Effects under the numbers from `id` on, in order. -/
def numbered (id : Nat) (es : List ImageEffect) : List (Nat × ImageEffect) :=
  (es.zipIdx id).map Prod.swap

theorem map_fst_numbered (id : Nat) (es : List ImageEffect) :
    (numbered id es).map (·.1) = List.range' id es.length := by
  simp [numbered, Function.comp_def, List.zipIdx_map_snd]

theorem numbered_append (id : Nat) (es es' : List ImageEffect) :
    numbered id (es ++ es') = numbered id es ++ numbered (id + es.length) es' := by
  simp [numbered, List.zipIdx_append]

/-- Once there was `t`, then the effects `es` were added, others were taken out, and now there is
`t'`. -/
structure Grown (es : List ImageEffect) (t t' : Timeline) : Prop where
  nextId : t'.nextId = t.nextId + es.length
  sublist : t'.effects.Sublist (t.effects ++ numbered t.nextId es)

theorem grown_add (t : Timeline) (e : ImageEffect) : Grown [e] t (t.add e).2 :=
  ⟨rfl, List.Sublist.refl _⟩

theorem grown_of_sublist (hid : t'.nextId = t.nextId) (h : t'.effects.Sublist t.effects) :
    Grown [] t t' :=
  ⟨hid, h.trans (List.sublist_append_left _ _)⟩

namespace Grown

variable {es es' : List ImageEffect}

theorem refl (t : Timeline) : Grown [] t t := grown_of_sublist rfl (List.Sublist.refl _)

theorem trans (h : Grown es t t₁) (h' : Grown es' t₁ t₂) : Grown (es ++ es') t t₂ := by
  refine ⟨?_, ?_⟩
  · rw [h'.nextId, h.nextId, List.length_append, Nat.add_assoc]
  · rw [numbered_append, ← List.append_assoc, ← h.nextId]
    exact h'.sublist.trans (h.sublist.append (List.Sublist.refl _))

/-- New numbers are larger than the ones that have been given out before. -/
theorem ordered (h : Grown es t t') (ht : t.Ordered) : t'.Ordered := by
  have hids : t'.ids.Sublist (t.ids ++ List.range' t.nextId es.length) := by
    have hmap := h.sublist.map (·.1)
    rw [List.map_append, map_fst_numbered] at hmap
    exact hmap
  refine ⟨List.Pairwise.sublist hids ?_, fun id hid => ?_⟩
  · refine List.pairwise_append.2 ⟨ht.ascending, List.pairwise_lt_range', fun a ha b hb => ?_⟩
    have hlt := ht.below a ha
    have hle := (List.mem_range'_1.1 hb).1
    omega
  · rw [h.nextId]
    rcases List.mem_append.1 (hids.subset hid) with hold | hnew
    · have hlt := ht.below id hold
      omega
    · exact (List.mem_range'_1.1 hnew).2

/-- What a number means later it has meant since it was given out. -/
theorem get?_of_get? (h : Grown es t t') (ht : t.Ordered) (hid : id < t.nextId)
    (hget : t'.get? id = some e) : t.get? id = some e := by
  have hmem := h.sublist.subset ((h.ordered ht).get?_eq_some_iff.1 hget)
  rcases List.mem_append.1 hmem with hold | hnew
  · exact ht.get?_eq_some_iff.2 hold
  · have hrange := List.mem_map_of_mem (f := (·.1)) hnew
    rw [map_fst_numbered, List.mem_range'_1] at hrange
    exact absurd hid (Nat.not_lt.2 hrange.1)

end Grown

/-- The number of an effect that has just been added means this effect. -/
theorem Ordered.get?_add (h : t.Ordered) (e : ImageEffect) :
    (t.add e).2.get? t.nextId = some e := by
  refine ((grown_add t e).ordered h).get?_eq_some_iff.2 ?_
  exact List.mem_append_right _ (List.mem_singleton.2 rfl)

/-- What can be done to a timeline, the script of its scheduler starting over included. What is
drawn on and what is opened is the world as it is by then. -/
inductive Edit (σ : Type) where
  | add (e : ImageEffect)
  | remove (id : Nat)
  | clear
  | prune (time : Int)
  | apply (time : Int) (w : World σ)
  | setAutoPrune (on : Bool)
  | restart (reading : Int64) (w : World σ)

/-- The effects that an edit adds. -/
def Edit.added : Edit σ → List ImageEffect
  | .add e => [e]
  | _ => []

end Timeline

open Timeline

namespace Scheduler

variable [Graphics σ]

def edit (s : Scheduler π σ) : Edit σ → Scheduler π σ
  | .add e => { s with timeline := (s.timeline.add e).2 }
  | .remove id => { s with timeline := (s.timeline.remove id).2 }
  | .clear => { s with timeline := s.timeline.clear }
  | .prune time => { s with timeline := (s.timeline.prune time).2 }
  | .apply time w => (s.applyEffects time w).2.1
  | .setAutoPrune on => { s with timeline := s.timeline.setAutoPrune on }
  | .restart reading w => (s.restart reading w).2.1

/-- The timeline after the first `n` of the edits. -/
def timelineAt (s : Scheduler π σ) (edits : List (Edit σ)) (n : Nat) : Timeline :=
  ((edits.take n).foldl edit s).timeline

theorem grown_edit (s : Scheduler π σ) (change : Edit σ) :
    Grown change.added s.timeline (s.edit change).timeline := by
  cases change with
  | add e => exact grown_add s.timeline e
  | remove id => exact grown_of_sublist rfl List.filter_sublist
  | clear => exact grown_of_sublist rfl (List.nil_sublist _)
  | prune time => exact grown_of_sublist rfl List.filter_sublist
  | apply time w =>
    have happly : (s.edit (.apply time w)).timeline =
        if s.timeline.autoPrune then (s.timeline.prune time).2 else s.timeline := by
      rw [edit, applyEffects, apply_eq]
    rw [happly]
    split
    · exact grown_of_sublist rfl List.filter_sublist
    · exact .refl s.timeline
  | setAutoPrune on => exact grown_of_sublist rfl (List.Sublist.refl _)
  | restart reading w =>
    -- Without a source, and when it cannot be opened, nothing happens.
    simp only [edit, restart]
    split
    · exact .refl s.timeline
    · split
      · exact .refl s.timeline
      · exact grown_of_sublist rfl (List.nil_sublist _)

theorem grown_foldl_edit (s : Scheduler π σ) (edits : List (Edit σ)) :
    Grown (edits.flatMap Edit.added) s.timeline (edits.foldl edit s).timeline := by
  induction edits generalizing s with
  | nil => exact .refl s.timeline
  | cons change edits ih => exact (grown_edit s change).trans (ih (s.edit change))

/-- What can be relied on about numbers of effects while a timeline is edited. -/
structure NumbersLast (s : Scheduler π σ) (edits : List (Edit σ)) : Prop where
  /-- The numbers ascend, and the next one is larger. -/
  ordered : ∀ n, (s.timelineAt edits n).Ordered
  /-- The effects stand in the order in which they were added, under the numbers that they got
  then. -/
  sublist : ∀ n, (s.timelineAt edits n).effects.Sublist
    (numbered 0 ((edits.take n).flatMap Edit.added))
  /-- No number is given out twice. -/
  unique : ∀ m n e e', edits[m]? = some (.add e) → edits[n]? = some (.add e') → m < n →
    ((s.timelineAt edits m).add e).1 < ((s.timelineAt edits n).add e').1
  /-- The number that an effect has got means this effect at first, and at any later time either
  still this effect, or nothing then and ever after. -/
  meaning : ∀ m e, edits[m]? = some (.add e) →
    let id := ((s.timelineAt edits m).add e).1
    id = (s.timelineAt edits m).nextId ∧ (s.timelineAt edits (m + 1)).get? id = some e ∧
    ∀ n, m < n → (s.timelineAt edits n).get? id = some e ∨
      ∀ k, n ≤ k → (s.timelineAt edits k).get? id = none
  /-- Taking out goes by the number: out goes the one effect that has it, if there is one, which is
  handed back, and the others stay in order. -/
  remove : ∀ n id,
    ((s.timelineAt edits n).get? id = none →
      (s.timelineAt edits n).remove id = (none, s.timelineAt edits n)) ∧
    ∀ e, (s.timelineAt edits n).get? id = some e →
      ((s.timelineAt edits n).remove id).1 = some e ∧ ∃ front back,
        (s.timelineAt edits n).effects = front ++ (id, e) :: back ∧
        ((s.timelineAt edits n).remove id).2.effects = front ++ back
  /-- Pruning takes out what is over and counts it, and the others stay in order. -/
  prune : ∀ n time,
    ((s.timelineAt edits n).prune time).2.effects.Sublist (s.timelineAt edits n).effects ∧
    ((s.timelineAt edits n).prune time).1 + ((s.timelineAt edits n).prune time).2.size =
      (s.timelineAt edits n).size ∧
    ∀ id e, ((s.timelineAt edits n).prune time).2.get? id = some e ↔
      (s.timelineAt edits n).get? id = some e ∧ time < e.window.stop

section

variable (s : Scheduler π σ) (edits : List (Edit σ))

theorem exists_grown_timelineAt {n k : Nat} (h : n ≤ k) :
    ∃ es, Grown es (s.timelineAt edits n) (s.timelineAt edits k) := by
  obtain ⟨rest, htake⟩ := List.take_prefix_take_left (l := edits) h
  unfold timelineAt
  rw [← htake, List.foldl_append]
  exact ⟨_, grown_foldl_edit _ rest⟩

theorem timelineAt_succ {n : Nat} {e : ImageEffect} (h : edits[n]? = some (.add e)) :
    s.timelineAt edits (n + 1) = ((s.timelineAt edits n).add e).2 := by
  unfold timelineAt
  rw [List.take_add_one, h, Option.toList_some, List.foldl_append]
  rfl

end

/-- Whatever is done to a new timeline, and however often the script starts over, the numbers of
effects keep their meaning. -/
theorem numbersLast (s : Scheduler π σ) (on : Bool) (edits : List (Edit σ)) :
    NumbersLast { s with timeline := { autoPrune := on } } edits := by
  generalize hstart : ({ s with timeline := { autoPrune := on } } : Scheduler π σ) = start
  have hnew : start.timeline = { autoPrune := on } := by rw [← hstart]
  have hordered : ∀ n, (start.timelineAt edits n).Ordered := by
    intro n
    have hgrown := grown_foldl_edit start (edits.take n)
    exact hgrown.ordered (hnew ▸ ordered_empty on)
  refine ⟨hordered, fun n => ?_, fun m n e e' hm _ hlt => ?_, fun m e hm => ?_, fun n id => ?_,
    fun n time => ?_⟩
  · have hgrown := (grown_foldl_edit start (edits.take n)).sublist
    rw [hnew] at hgrown
    exact hgrown
  · obtain ⟨es, hgrown⟩ := exists_grown_timelineAt start edits (show m + 1 ≤ n from hlt)
    rw [timelineAt_succ start edits hm] at hgrown
    have hnext : ((start.timelineAt edits m).add e).2.nextId =
        (start.timelineAt edits m).nextId + 1 := rfl
    have hlater := hgrown.nextId
    show (start.timelineAt edits m).nextId < (start.timelineAt edits n).nextId
    omega
  · have hadded := timelineAt_succ start edits hm
    have hget := (hordered m).get?_add e
    rw [← hadded] at hget
    refine ⟨rfl, hget, fun n hn => ?_⟩
    have hgiven := (hordered (m + 1)).lt_of_get? hget
    obtain ⟨es, hgrown⟩ := exists_grown_timelineAt start edits (show m + 1 ≤ n from hn)
    show (start.timelineAt edits n).get? (start.timelineAt edits m).nextId = some e ∨
      ∀ k, n ≤ k → (start.timelineAt edits k).get? (start.timelineAt edits m).nextId = none
    cases hthen : (start.timelineAt edits n).get? (start.timelineAt edits m).nextId with
    | some e' =>
      -- Whatever the number means now it has meant right after the effect was added.
      have hbefore := hgrown.get?_of_get? (hordered (m + 1)) hgiven hthen
      rw [hget] at hbefore
      exact .inl hbefore.symm
    | none =>
      refine .inr fun k hk => ?_
      obtain ⟨es', hgrown'⟩ := exists_grown_timelineAt start edits hk
      have hgiven' := hgrown.nextId
      cases hlater : (start.timelineAt edits k).get? (start.timelineAt edits m).nextId with
      | none => rfl
      | some e' =>
        rw [hgrown'.get?_of_get? (hordered n) (by omega) hlater] at hthen
        cases hthen
  · exact ⟨remove_of_get?_eq_none, fun e hget => (hordered n).exists_remove hget⟩
  · refine ⟨List.filter_sublist, Nat.sub_add_cancel (List.length_filter_le ..), fun id e => ?_⟩
    rw [((hordered n).prune time).get?_eq_some_iff, (hordered n).get?_eq_some_iff, mem_prune,
      Window.expired, decide_eq_false_iff_not, Int.not_le]

end Scheduler

end DemoReel
