import Mathlib.Data.List.Nodup
import DemoReel.Graphics.Rehearsal
import DemoReel.Part.Scene
import DemoReel.Proofs.Part.Change
import DemoReel.Proofs.Part.Since
import DemoReel.Proofs.Text.ByteOrder

/-!
# Parts in custody

A registry keeps the parts that are given to it until it hands them back. Drawing changes parts, so
each is followed by a tag that drawing leaves alone. Main statement: whatever is asked of a registry
and however often it is drawn, every part that it has taken is either under exactly one name or has
been handed back (`run_balanced`).
-/

namespace DemoReel

variable {π σ ι : Type}

namespace Registry

/-- The parts in the registry, in the order of their names. -/
def held (r : Registry π) : List π := r.parts.entries.map (·.2.part)

/-- The part that a change brings along, if the registry takes it. -/
def Change.brought (r : Registry π) (c : Change π) : List π :=
  if c.isAccepted r then c.part?.toList else []

/-- The part that a change makes the registry hand back. -/
def Change.handedBack (r : Registry π) (c : Change π) : List π :=
  match c.on r with
  | .ok u => u.released.toList
  | .error _ => []

/-! ## One change -/

section

variable (r : Registry π)

/-- Whatever is done to settings and status, the parts stay. -/
theorem held_setEntry (name : String) {f : Enrolled π → Enrolled π} (h : ∀ e, (f e).part = e.part) :
    (r.setEntry name f).held = r.held := by
  show (r.parts.entries.map _).map _ = r.parts.entries.map _
  rw [List.map_map]
  refine List.map_congr_left fun e _ => ?_
  simp only [Function.comp]
  split
  · exact h e.2
  · rfl

theorem held_stopAll : r.stopAll.held = r.held := by
  show (r.parts.entries.map _).map _ = r.parts.entries.map _
  rw [List.map_map]
  rfl

/-- A part that leaves its name. -/
theorem perm_held_erase {name : String} {e : Enrolled π} (h : r.get? name = some e) :
    (held ⟨r.parts.erase name⟩ ++ [e.part]).Perm r.held := by
  have hperm := (NameMap.perm_entries_erase h).map fun x : String × Enrolled π => x.2.part
  exact (List.perm_append_singleton _ _).trans hperm.symm

/-- A part that comes to a name, and the one that had it. -/
theorem perm_held_insert (name : String) (e : Enrolled π) :
    (held ⟨r.parts.insert name e⟩ ++ ((r.get? name).map (·.part)).toList).Perm
      (r.held ++ [e.part]) := by
  have hnew : (held ⟨r.parts.insert name e⟩).Perm (held ⟨r.parts.erase name⟩ ++ [e.part]) := by
    have hperm := (NameMap.perm_entries_insert r.parts name e).map
      fun x : String × Enrolled π => x.2.part
    exact hperm.trans (List.perm_append_singleton _ _).symm
  cases hget : r.get? name with
  | none =>
    have hsame : r.parts.erase name = r.parts := NameMap.erase_of_get?_eq_none hget
    rw [hsame] at hnew
    simpa using hnew
  | some old =>
    have hold := r.perm_held_erase hget
    calc (held ⟨r.parts.insert name e⟩ ++ [old.part]).Perm
          (held ⟨r.parts.erase name⟩ ++ [e.part] ++ [old.part]) := hnew.append_right _
      List.Perm _ (held ⟨r.parts.erase name⟩ ++ [old.part] ++ [e.part]) := by
        rw [List.append_assoc, List.append_assoc]
        exact (List.Perm.swap _ _ _).append_left _
      List.Perm _ (r.held ++ [e.part]) := hold.append_right _

/-- A change that is not about the parts themselves. -/
theorem perm_held_of_kept {c : Change π} (hpart : c.part? = none)
    (h : ∀ u, c.on r = .ok u → u.registry.held = r.held ∧ u.released = none) :
    ((r.after c).held ++ c.handedBack r).Perm (r.held ++ c.brought r) := by
  have hbrought : c.brought r = [] := by
    rw [Change.brought, hpart]
    exact ite_self []
  rw [hbrought, after, Change.handedBack]
  cases hon : c.on r with
  | error why => rfl
  | ok u =>
    obtain ⟨hheld, hreleased⟩ := h u hon
    simp [settle, hheld, hreleased]

theorem held_of_configure (name : String) (f : PartSettings → PartSettings) {u : Update π}
    (h : r.configure name f = .ok u) : u.registry.held = r.held ∧ u.released = none := by
  unfold configure at h
  split at h
  · cases h
  · cases h
    exact ⟨r.held_setEntry name fun _ => rfl, rfl⟩

/-- A change keeps all parts together: those that are there before it and the one that comes are
those that are there after it and the one that goes. -/
theorem perm_held_after (c : Change π) :
    ((r.after c).held ++ c.handedBack r).Perm (r.held ++ c.brought r) := by
  cases c with
  | add name part settings =>
    have hinsert := r.perm_held_insert name ⟨part, settings, .idle⟩
    simp only [after, Change.handedBack, Change.brought, Change.isAccepted, Change.on, add,
      Change.part?]
    split
    · simp [settle, Except.isOk, Except.toBool]
    · cases hget : r.get? name with
      | none =>
        rw [hget] at hinsert
        exact hinsert
      | some old =>
        rw [hget] at hinsert
        exact hinsert
  | remove name =>
    simp only [after, Change.handedBack, Change.brought, Change.on, remove, Change.part?]
    cases hget : r.get? name with
    | none => simp [settle]
    | some e => simpa [settle] using r.perm_held_erase hget
  | rename name new =>
    simp only [after, Change.handedBack, Change.brought, Change.on, rename, Change.part?]
    split
    · simp [settle]
    · cases hget : r.get? name with
      | none => simp [settle]
      | some e =>
        by_cases hsame : name = new
        · simp [settle, hsame]
        · -- The part leaves its name before it comes to the other.
          have herase := r.perm_held_erase hget
          have hinsert := perm_held_insert ⟨r.parts.erase name⟩ new e
          have hnew : get? ⟨r.parts.erase name⟩ new = r.get? new := by
            show (r.parts.erase name).get? new = _
            rw [NameMap.get?_erase, if_neg (Ne.symm hsame)]
            rfl
          rw [hnew] at hinsert
          have hmoved := hinsert.trans herase
          cases hold : r.get? new with
          | none =>
            rw [hold] at hmoved
            simpa [settle, hsame] using hmoved
          | some old =>
            rw [hold] at hmoved
            simpa [settle, hsame] using hmoved
  | start name time =>
    refine r.perm_held_of_kept rfl fun u hu => ?_
    simp only [Change.on, start] at hu
    split at hu
    · cases hu
    · cases hu
      exact ⟨r.held_setEntry name fun _ => rfl, rfl⟩
  | stop name =>
    refine r.perm_held_of_kept rfl fun u hu => ?_
    simp only [Change.on, stop] at hu
    split at hu
    · cases hu
    · split at hu
      · cases hu
        exact ⟨r.held_setEntry name fun _ => rfl, rfl⟩
      · cases hu
  | stopAll =>
    refine r.perm_held_of_kept rfl fun u hu => ?_
    cases hu
    exact ⟨r.held_stopAll, rfl⟩
  | setTarget name target =>
    exact r.perm_held_of_kept rfl fun _ => r.held_of_configure name fun s => { s with target }
  | setClear name clear =>
    exact r.perm_held_of_kept rfl fun _ => r.held_of_configure name fun s => { s with clear }

/-- The empty name stays free. -/
theorem get?_empty_after (h : r.get? "" = none) (c : Change π) : (r.after c).get? "" = none := by
  by_cases hc : c.isAccepted r = true
  · cases c with
    | add name part settings =>
      have hname : name ≠ "" := isAccepted_add_iff.1 hc
      rw [get?_after_add name "" part settings hname, if_neg hname.symm, h]
    | remove name =>
      rw [get?_after_remove, h]
      exact ite_self none
    | rename name new =>
      obtain ⟨hnew, e, he⟩ := isAccepted_rename_iff.1 hc
      rw [get?_after_rename name "" hnew he, if_neg hnew.symm, h]
      exact ite_self none
    | start name time => rw [get?_after_start, h, Option.map_none]
    | stop name => rw [get?_after_stop, h, Option.map_none]
    | stopAll => rw [get?_after_stopAll, h, Option.map_none]
    | setTarget name target =>
      exact (get?_settle_configure name "" fun s => { s with target }).trans (by rw [h]; rfl)
    | setClear name clear =>
      exact (get?_settle_configure name "" fun s => { s with clear }).trans (by rw [h]; rfl)
  · rw [after_of_refused (by simpa using hc), h]

end

/-! ## Drawing -/

section

variable [Graphics σ] [Part π σ]

/-- Drawing keeps what it keeps of each part. -/
theorem map_held_render {tag : π → ι}
    (h : ∀ (p : π) (frame : Frame) (w : World σ), tag (Part.render p frame w).2.1 = tag p)
    (r : Registry π) (time : Int) (w : World σ) :
    (r.render time w).2.1.held.map tag = r.held.map tag := by
  show ((NameMap.traverseList (renderEntry time) r.parts.entries w).1.map _).map tag =
    (r.parts.entries.map _).map tag
  induction r.parts.entries generalizing w with
  | nil => rfl
  | cons x rest ih =>
    obtain ⟨name, e⟩ := x
    have hentry : tag (renderEntry time name e w).1.part = tag e.part := by
      unfold renderEntry
      cases e.status with
      | idle => rfl
      | running since => exact h e.part _ _
    simp only [NameMap.traverseList, List.map_cons, ih, hentry]

/-- Parts are drawn in the order in which the running ones are listed. -/
theorem render_eq_foldl_running (r : Registry π) (time : Int) (w : World σ) :
    (r.render time w).2.2 = r.running.foldl (fun w x => (renderEntry time x.1 x.2 w).2) w := by
  show (NameMap.traverseList (renderEntry time) r.parts.entries w).2 =
    (r.parts.entries.filter _).foldl _ w
  induction r.parts.entries generalizing w with
  | nil => rfl
  | cons x rest ih =>
    obtain ⟨name, e⟩ := x
    cases he : e.status with
    | idle =>
      have hidle : renderEntry time name e w = (e, w) := by simp [renderEntry, he]
      rw [List.filter_cons_of_neg (by simp [he, PartStatus.isRunning])]
      simp only [NameMap.traverseList, hidle, ih]
    | running since =>
      rw [List.filter_cons_of_pos (by simp [he, PartStatus.isRunning])]
      simp only [NameMap.traverseList, List.foldl_cons, ih]

end

/-! ## The listings -/

/-- The registry lists its names and its running parts in the order of the bytes of the names, and
draws in this order. It tells how many it has drawn. -/
structure Listed (σ : Type) [Graphics σ] [Part π σ] (r : Registry π) : Prop where
  ascending : r.names.Pairwise fun n m => Text.utf8 n < Text.utf8 m
  mem_names : ∀ name, name ∈ r.names ↔ r.contains name = true
  running_ascending : r.runningNames.Pairwise fun n m => Text.utf8 n < Text.utf8 m
  mem_runningNames : ∀ name, name ∈ r.runningNames ↔ r.isRunning name = true
  drawn : ∀ (time : Int) (w : World σ), (r.render time w).1 = r.runningNames.length ∧
    (r.render time w).2.2 = r.running.foldl (fun w x => (renderEntry time x.1 x.2 w).2) w

theorem listed [Graphics σ] [Part π σ] (r : Registry π) : r.Listed σ where
  ascending := r.parts.sorted.imp fun h => Text.utf8_lt_utf8 h
  mem_names _ := NameMap.mem_names_iff
  running_ascending :=
    (r.parts.sorted.sublist (List.filter_sublist.map _)).imp fun h => Text.utf8_lt_utf8 h
  mem_runningNames _ := mem_runningNames_iff
  drawn time w := ⟨(List.length_map _).symm, r.render_eq_foldl_running time w⟩

/-! ## All that happens to a registry -/

/-- What happens to a registry: it is changed, or its running parts are drawn in some world. -/
inductive Use (π σ : Type) where
  | change (c : Change π)
  | draw (time : Int) (w : World σ)

/-- The part that comes along. -/
def Use.part? : Use π σ → Option π
  | .change c => c.part?
  | .draw _ _ => none

/-- A registry with the parts that it has taken and those that it has handed back. -/
structure Account (π : Type) where
  registry : Registry π := .empty
  taken : List π := []
  returned : List π := []

namespace Account

section

variable [Graphics σ] [Part π σ]

def after (a : Account π) : Use π σ → Account π
  | .change c =>
    { registry := a.registry.after c
      taken := a.taken ++ c.brought a.registry
      returned := a.returned ++ c.handedBack a.registry }
  | .draw time w => { a with registry := (a.registry.render time w).2.1 }

def run (a : Account π) (uses : List (Use π σ)) : Account π := uses.foldl after a

/-- Whoever brings a part has it: it is not in the registry at that moment. -/
def Owned (tag : π → ι) (a : Account π) : List (Use π σ) → Prop
  | [] => True
  | u :: uses =>
    (∀ p, u.part? = some p → tag p ∉ a.registry.held.map tag) ∧ Owned tag (a.after u) uses

end

/-- The account is in order: what was taken is held or was handed back, and nothing is held
twice. -/
structure Sound (tag : π → ι) (a : Account π) : Prop where
  conserved : (a.taken.map tag).Perm (a.registry.held.map tag ++ a.returned.map tag)
  distinct : (a.registry.held.map tag).Nodup
  named : a.registry.get? "" = none

namespace Sound

variable {tag : π → ι} {a : Account π}

theorem empty (tag : π → ι) : Sound tag ({} : Account π) := ⟨.refl [], .nil, rfl⟩

variable [Graphics σ] [Part π σ]

theorem change (h : a.Sound tag) {c : Change π}
    (hown : ∀ p, c.part? = some p → tag p ∉ a.registry.held.map tag) :
    Sound tag (a.after (.change c : Use π σ)) := by
  have hmoved := (a.registry.perm_held_after c).map tag
  rw [List.map_append, List.map_append] at hmoved
  refine ⟨?_, ?_, a.registry.get?_empty_after h.named c⟩
  · show ((a.taken ++ c.brought a.registry).map tag).Perm
      ((a.registry.after c).held.map tag ++ (a.returned ++ c.handedBack a.registry).map tag)
    rw [List.map_append, List.map_append]
    calc (a.taken.map tag ++ (c.brought a.registry).map tag).Perm
          (a.registry.held.map tag ++ a.returned.map tag ++ (c.brought a.registry).map tag) :=
        h.conserved.append_right _
      List.Perm _ (a.registry.held.map tag ++ (c.brought a.registry).map tag ++
          a.returned.map tag) := by
        rw [List.append_assoc, List.append_assoc]
        exact List.perm_append_comm.append_left _
      List.Perm _ ((a.registry.after c).held.map tag ++ (c.handedBack a.registry).map tag ++
          a.returned.map tag) := hmoved.symm.append_right _
      List.Perm _ ((a.registry.after c).held.map tag ++
          (a.returned.map tag ++ (c.handedBack a.registry).map tag)) := by
        rw [List.append_assoc]
        exact List.perm_append_comm.append_left _
  · -- The part that comes is none of those that are there, so nothing is twice in the sum.
    have hsum : (a.registry.held.map tag ++ (c.brought a.registry).map tag).Nodup := by
      unfold Change.brought
      split
      · cases hpart : c.part? with
        | none => simpa using h.distinct
        | some p =>
          refine List.nodup_append.2 ⟨h.distinct, by simp, ?_⟩
          intro x hx y hy heq
          have hy : y = tag p := by simpa using hy
          exact hown p hpart (hy ▸ heq ▸ hx)
      · simpa using h.distinct
    exact (List.nodup_append.1 (hmoved.nodup_iff.2 hsum)).1

theorem draw (h : a.Sound tag)
    (hdraw : ∀ (p : π) (frame : Frame) (w : World σ), tag (Part.render p frame w).2.1 = tag p)
    (time : Int) (w : World σ) : Sound tag (a.after (.draw time w)) := by
  have hheld := map_held_render hdraw a.registry time w
  have hnames : (a.registry.render time w).2.1.names = a.registry.names :=
    NameMap.names_traverse a.registry.parts (renderEntry time) w
  refine ⟨?_, ?_, ?_⟩
  · show (a.taken.map tag).Perm ((a.registry.render time w).2.1.held.map tag ++ _)
    rw [hheld]
    exact h.conserved
  · show ((a.registry.render time w).2.1.held.map tag).Nodup
    rw [hheld]
    exact h.distinct
  · refine NameMap.get?_eq_none_iff.2 ?_
    show "" ∉ (a.registry.render time w).2.1.names
    rw [hnames]
    exact NameMap.get?_eq_none_iff.1 h.named

theorem run (h : a.Sound tag)
    (hdraw : ∀ (p : π) (frame : Frame) (w : World σ), tag (Part.render p frame w).2.1 = tag p)
    {uses : List (Use π σ)} (hown : a.Owned tag uses) : Sound tag (a.run uses) := by
  induction uses generalizing a with
  | nil => exact h
  | cons u uses ih =>
    refine ih ?_ hown.2
    cases u with
    | change c => exact h.change hown.1
    | draw time w => exact h.draw hdraw time w

end Sound

/-- What is to be said of an account: its parts are conserved, each is under one name at most, no
name is empty, and the sizes add up. -/
structure Balanced (tag : π → ι) (a : Account π) : Prop where
  conserved : (a.taken.map tag).Perm (a.registry.held.map tag ++ a.returned.map tag)
  distinct : ∀ name name' e e', a.registry.get? name = some e → a.registry.get? name' = some e' →
    tag e.part = tag e'.part → name = name'
  named : a.registry.contains "" = false
  size : a.registry.size + a.returned.length = a.taken.length

theorem Sound.balanced {tag : π → ι} {a : Account π} (h : a.Sound tag) : a.Balanced tag where
  conserved := h.conserved
  distinct := by
    intro name name' e e' he he' htag
    have hnodup := h.distinct
    rw [held, List.map_map] at hnodup
    have hsame := List.inj_on_of_nodup_map hnodup (NameMap.get?_eq_some_iff.1 he)
      (NameMap.get?_eq_some_iff.1 he') htag
    exact congrArg Prod.fst hsame
  named := by
    rw [contains, NameMap.contains, show a.registry.parts.get? "" = none from h.named]
    rfl
  size := by
    have hlength := h.conserved.length_eq
    simp only [List.length_append, List.length_map, held] at hlength
    exact hlength.symm

/-- Whatever happens to a registry that was empty at first: the parts that it has taken are those
that it holds and those that it has handed back, no two names hold one part, and the listings and
the drawing go by the names that are there, each once, in the order of their bytes. -/
theorem run_balanced [Graphics σ] [Part π σ] {tag : π → ι}
    (hdraw : ∀ (p : π) (frame : Frame) (w : World σ), tag (Part.render p frame w).2.1 = tag p)
    {uses : List (Use π σ)} (hown : Owned tag {} uses) :
    Balanced tag (run {} uses) ∧ (run {} uses).registry.Listed σ :=
  ⟨((Sound.empty tag).run hdraw hown).balanced, listed _⟩

/-- A part that loses its name to another, which loses it in turn; the first comes back. -/
theorem run_balanced_displaced :
    let part (period : Int) : Diary Scene := ⟨.pulse .white period, []⟩
    let uses : List (Use (Diary Scene) Rehearsal) :=
      [.change (.add "a" (part 1) {}), .change (.add "b" (part 2) {}),
        .change (.add "" (part 3) {}), .change (.start "a" 0), .draw 40 ⟨{}, {}, #[]⟩,
        .change (.rename "a" "b"), .change (.rename "b" "b"), .change (.add "b" (part 4) {}),
        .change (.add "a" (part 2) {}), .change (.remove "b")]
    let a : Account (Diary Scene) := run {} uses
    (∀ (p : Diary Scene) (frame : Frame) (w : World Rehearsal),
        (Part.render p frame w).2.1.part = p.part) ∧
      Owned (·.part) {} uses ∧
      a.taken.map (·.part) = [1, 2, 4, 2].map (Scene.pulse .white) ∧
      a.returned.map (·.part) = [2, 1, 4].map (Scene.pulse .white) ∧
      Balanced (·.part) a ∧ a.registry.Listed Rehearsal := by
  intro part uses a
  have hdraw : ∀ (p : Diary Scene) (frame : Frame) (w : World Rehearsal),
      (Part.render p frame w).2.1.part = p.part := fun _ _ _ => rfl
  have hown : Owned (·.part) {} uses := by
    simp only [uses, Owned]
    decide +kernel
  exact ⟨hdraw, hown, by decide +kernel, by decide +kernel, run_balanced hdraw hown⟩

end Account

end Registry

end DemoReel
