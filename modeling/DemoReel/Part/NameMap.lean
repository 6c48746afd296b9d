/-!
# Maps keyed by name

An association list in strictly ascending order of names, by code points, which is the byte order of
their UTF-8 forms. Strictness leaves one entry a name. Main statements: what `get?` finds after
`insert` and after `erase`, which entries they leave (`perm_entries_insert`, `perm_entries_erase`),
and which changes keep what holds of all values (`All`).
-/

namespace DemoReel

/-- Values under names, in ascending order of the names. -/
structure NameMap (α : Type) where
  entries : List (String × α)
  sorted : (entries.map (·.1)).Pairwise (· < ·)

namespace NameMap

variable {α β σ : Type}

def empty : NameMap α := ⟨[], .nil⟩

def get? (m : NameMap α) (name : String) : Option α := m.entries.lookup name

def contains (m : NameMap α) (name : String) : Bool := (m.get? name).isSome

def names (m : NameMap α) : List String := m.entries.map (·.1)

def size (m : NameMap α) : Nat := m.entries.length

/-- Puts a value in its place, over the one that has its name. -/
def insertInto (name : String) (v : α) : List (String × α) → List (String × α)
  | [] => [(name, v)]
  | (n, u) :: rest =>
    if name < n then (name, v) :: (n, u) :: rest
    else if n < name then (n, u) :: insertInto name v rest
    else (name, v) :: rest

theorem mem_names_insertInto {name n : String} {v : α} {l : List (String × α)}
    (h : n ∈ (insertInto name v l).map (·.1)) : n = name ∨ n ∈ l.map (·.1) := by
  induction l with
  | nil => simpa [insertInto] using h
  | cons e rest ih =>
    obtain ⟨k, u⟩ := e
    rw [insertInto] at h
    split at h
    · simpa using h
    · split at h
      · simp only [List.map_cons, List.mem_cons] at h ⊢
        rcases h with h | h
        · exact .inr (.inl h)
        · exact (ih h).imp_right .inr
      · simp only [List.map_cons, List.mem_cons] at h ⊢
        exact h.imp_right .inr

theorem sorted_insertInto (name : String) (v : α) {l : List (String × α)}
    (h : (l.map (·.1)).Pairwise (· < ·)) :
    ((insertInto name v l).map (·.1)).Pairwise (· < ·) := by
  induction l with
  | nil => simp [insertInto]
  | cons e rest ih =>
    obtain ⟨k, u⟩ := e
    simp only [List.map_cons, List.pairwise_cons] at h
    rw [insertInto]
    split
    · next hlt =>
      simp only [List.map_cons, List.pairwise_cons, List.mem_cons, forall_eq_or_imp]
      exact ⟨⟨hlt, fun n hn => String.lt_trans hlt (h.1 n hn)⟩, h⟩
    · next hnlt =>
      split
      · next hlt =>
        simp only [List.map_cons, List.pairwise_cons]
        refine ⟨fun n hn => ?_, ih h.2⟩
        rcases mem_names_insertInto hn with rfl | hn
        · exact hlt
        · exact h.1 n hn
      · next hnlt' =>
        have : name = k := String.le_antisymm (String.not_lt.1 hnlt') (String.not_lt.1 hnlt)
        subst this
        simpa only [List.map_cons, List.pairwise_cons] using h

/-- Puts a value under a name; the value that was there is lost. -/
def insert (m : NameMap α) (name : String) (v : α) : NameMap α :=
  ⟨insertInto name v m.entries, sorted_insertInto name v m.sorted⟩

/-- Takes a name out. -/
def erase (m : NameMap α) (name : String) : NameMap α :=
  ⟨m.entries.filter (·.1 ≠ name), m.sorted.sublist (List.filter_sublist.map _)⟩

/-- Changes the value under a name, if there is one. -/
def modify (m : NameMap α) (name : String) (f : α → α) : NameMap α :=
  ⟨m.entries.map fun e => if e.1 = name then (e.1, f e.2) else e, by
    have h : (m.entries.map fun e => if e.1 = name then (e.1, f e.2) else e).map (·.1) =
        m.entries.map (·.1) := by
      rw [List.map_map]
      exact List.map_congr_left fun e _ => by simp only [Function.comp]; split <;> rfl
    rw [h]; exact m.sorted⟩

/-- Changes every value. -/
def map (m : NameMap α) (f : α → β) : NameMap β :=
  ⟨m.entries.map fun e => (e.1, f e.2), by simpa [Function.comp_def] using m.sorted⟩

/-- Changes the values of a list in order while a state goes along. -/
def traverseList (f : String → α → σ → β × σ) :
    List (String × α) → σ → List (String × β) × σ
  | [], s => ([], s)
  | (n, v) :: rest, s =>
    let (v', s) := f n v s
    let (rest', s) := traverseList f rest s
    ((n, v') :: rest', s)

theorem names_traverseList (f : String → α → σ → β × σ) (l : List (String × α)) (s : σ) :
    (traverseList f l s).1.map (·.1) = l.map (·.1) := by
  induction l generalizing s with
  | nil => rfl
  | cons e rest ih => simp [traverseList, ih]

/-- Changes every value, in the order of the names, while a state goes along. -/
def traverse (m : NameMap α) (f : String → α → σ → β × σ) (s : σ) : NameMap β × σ :=
  (⟨(traverseList f m.entries s).1, by rw [names_traverseList]; exact m.sorted⟩,
    (traverseList f m.entries s).2)

theorem lookup_insertInto_self (name : String) (v : α) (l : List (String × α)) :
    (insertInto name v l).lookup name = some v := by
  induction l with
  | nil => simp [insertInto]
  | cons e rest ih =>
    obtain ⟨k, u⟩ := e
    rw [insertInto]
    split
    · simp
    · split
      · next h =>
        have : (name == k) = false := by
          simpa using fun he : name = k => String.lt_irrefl name (he ▸ h)
        rw [List.lookup_cons, this]
        exact ih
      · simp

theorem lookup_insertInto_of_ne {name n : String} (h : n ≠ name) (v : α)
    (l : List (String × α)) : (insertInto name v l).lookup n = l.lookup n := by
  have hn : (n == name) = false := by simpa using h
  induction l with
  | nil => simp [insertInto, List.lookup_cons, hn]
  | cons e rest ih =>
    obtain ⟨k, u⟩ := e
    rw [insertInto]
    split
    · rw [List.lookup_cons, hn]
    · next hnlt =>
      split
      · rw [List.lookup_cons, List.lookup_cons, ih]
      · next hnlt' =>
        have hk : name = k := String.le_antisymm (String.not_lt.1 hnlt') (String.not_lt.1 hnlt)
        subst hk
        rw [List.lookup_cons, List.lookup_cons, hn]

@[simp] theorem get?_insert_self (m : NameMap α) (name : String) (v : α) :
    (m.insert name v).get? name = some v := lookup_insertInto_self ..

theorem get?_insert_of_ne (m : NameMap α) {name n : String} (v : α) (h : n ≠ name) :
    (m.insert name v).get? n = m.get? n := lookup_insertInto_of_ne h ..

@[simp] theorem get?_erase_self (m : NameMap α) (name : String) :
    (m.erase name).get? name = none := by
  simp only [get?, erase, List.lookup_eq_none_iff, List.mem_filter]
  rintro e ⟨-, he⟩
  exact bne_iff_ne.2 fun h => of_decide_eq_true he h.symm

theorem get?_insert (m : NameMap α) (name : String) (v : α) (n : String) :
    (m.insert name v).get? n = if n = name then some v else m.get? n := by
  by_cases h : n = name
  · rw [h, get?_insert_self, if_pos rfl]
  · rw [get?_insert_of_ne m v h, if_neg h]

theorem get?_erase (m : NameMap α) (name n : String) :
    (m.erase name).get? n = if n = name then none else m.get? n := by
  by_cases h : n = name
  · rw [h, get?_erase_self, if_pos rfl]
  rw [if_neg h]
  show (m.entries.filter (·.1 ≠ name)).lookup n = m.entries.lookup n
  induction m.entries with
  | nil => rfl
  | cons e rest ih =>
    by_cases he : e.1 = name
    · have hn : (n == e.1) = false := by simpa [he] using h
      rw [List.filter_cons_of_neg (by simpa using he), List.lookup_cons, hn]
      exact ih
    · rw [List.filter_cons_of_pos (by simpa using he), List.lookup_cons, List.lookup_cons, ih]

theorem get?_modify (m : NameMap α) (name : String) (f : α → α) (n : String) :
    (m.modify name f).get? n = (m.get? n).map fun v => if n = name then f v else v := by
  show (m.entries.map fun e => if e.1 = name then (e.1, f e.2) else e).lookup n =
    (m.entries.lookup n).map fun v => if n = name then f v else v
  induction m.entries with
  | nil => rfl
  | cons e rest ih =>
    rw [List.map_cons, List.lookup_cons, List.lookup_cons, ih]
    by_cases hn : n = e.1
    · have hsame : (n == e.1) = true := by simpa using hn
      by_cases hname : e.1 = name <;> simp [hn, hname]
    · have hother : (n == e.1) = false := by simpa using hn
      have hkey : (if e.1 = name then (e.1, f e.2) else e).1 = e.1 := by split <;> rfl
      rw [hkey, hother]

@[simp] theorem names_traverse (m : NameMap α) (f : String → α → σ → β × σ) (s : σ) :
    (m.traverse f s).1.names = m.names := names_traverseList ..

@[ext] theorem ext {m m' : NameMap α} (h : m.entries = m'.entries) : m = m' := by
  cases m; cases m'; cases h; rfl

theorem map_map {γ : Type} (m : NameMap α) (f : α → β) (g : β → γ) :
    (m.map f).map g = m.map fun v => g (f v) := by
  ext1
  simp [map, Function.comp_def]

theorem map_insertInto (f : α → β) (name : String) (v : α) (l : List (String × α)) :
    (insertInto name v l).map (fun e => (e.1, f e.2)) =
      insertInto name (f v) (l.map fun e => (e.1, f e.2)) := by
  induction l with
  | nil => rfl
  | cons e rest ih =>
    simp only [insertInto, List.map_cons]
    split
    · rfl
    · split
      · rw [List.map_cons, ih]
      · rfl

theorem map_insert (m : NameMap α) (f : α → β) (name : String) (v : α) :
    (m.insert name v).map f = (m.map f).insert name (f v) :=
  NameMap.ext (map_insertInto f name v m.entries)

theorem map_erase (m : NameMap α) (f : α → β) (name : String) :
    (m.erase name).map f = (m.map f).erase name := by
  ext1
  simp only [map, erase, List.filter_map, Function.comp_def]

theorem map_modify (m : NameMap α) (name : String) {f : α → β} {g : α → α} {g' : β → β}
    (h : ∀ v, f (g v) = g' (f v)) : (m.modify name g).map f = (m.map f).modify name g' := by
  ext1
  simp only [map, modify, List.map_map]
  refine List.map_congr_left fun e _ => ?_
  simp only [Function.comp_apply]
  split
  · rw [h]
  · rfl

theorem get?_map (m : NameMap α) (f : α → β) (name : String) :
    (m.map f).get? name = (m.get? name).map f := by
  show (m.entries.map fun e => (e.1, f e.2)).lookup name = (m.entries.lookup name).map f
  induction m.entries with
  | nil => rfl
  | cons e rest ih =>
    rw [List.map_cons, List.lookup_cons, List.lookup_cons, ih]
    cases name == e.1 <;> rfl

/-- Two maps with the same values up to `f` have them after a change that goes by the value up to
`f`. -/
theorem map_modify_congr {m m' : NameMap α} {f : α → β} {g g' : α → α} (name : String)
    (h : m.map f = m'.map f) (hg : ∀ v v', f v = f v' → f (g v) = f (g' v')) :
    (m.modify name g).map f = (m'.modify name g').map f := by
  obtain ⟨l, hl⟩ := m
  obtain ⟨l', hl'⟩ := m'
  replace h : l.map (fun e => (e.1, f e.2)) = l'.map fun e => (e.1, f e.2) := congrArg entries h
  ext1
  simp only [map, modify, List.map_map]
  clear hl hl'
  induction l generalizing l' with
  | nil =>
    cases l' with
    | nil => rfl
    | cons e' rest' => simp at h
  | cons e rest ih =>
    cases l' with
    | nil => simp at h
    | cons e' rest' =>
      obtain ⟨n, v⟩ := e
      obtain ⟨n', v'⟩ := e'
      simp only [List.map_cons, List.cons.injEq, Prod.mk.injEq] at h
      obtain ⟨⟨rfl, hv⟩, hrest⟩ := h
      simp only [List.map_cons, Function.comp_apply, ih rest' hrest]
      by_cases hn : n = name
      · simp only [hn, if_true, hg v v' hv]
      · simp only [hn, if_false, hv]

/-! ## Entries in any order -/

theorem filter_ne_of_lt {name : String} {l : List (String × α)} (h : ∀ n ∈ l.map (·.1), name < n) :
    l.filter (·.1 ≠ name) = l := by
  refine List.filter_eq_self.2 fun e he => ?_
  have hlt : name < e.1 := h e.1 (List.mem_map_of_mem he)
  have hne : e.1 ≠ name := fun heq => String.lt_irrefl name (heq ▸ hlt)
  simpa using hne

theorem perm_insertInto (name : String) (v : α) {l : List (String × α)}
    (h : (l.map (·.1)).Pairwise (· < ·)) :
    (insertInto name v l).Perm ((name, v) :: l.filter (·.1 ≠ name)) := by
  induction l with
  | nil => exact .refl _
  | cons e rest ih =>
    obtain ⟨k, u⟩ := e
    rw [List.map_cons, List.pairwise_cons] at h
    rw [insertInto]
    split
    · next hlt =>
      have hall : ∀ n ∈ ((k, u) :: rest).map (·.1), name < n := by
        rw [List.map_cons, List.forall_mem_cons]
        exact ⟨hlt, fun n hn => String.lt_trans hlt (h.1 n hn)⟩
      rw [filter_ne_of_lt hall]
    · next hnlt =>
      split
      · next hlt =>
        have hne : k ≠ name := fun heq => String.lt_irrefl name (heq ▸ hlt)
        rw [List.filter_cons_of_pos (by simpa using hne)]
        exact ((ih h.2).cons (k, u)).trans (.swap _ _ _)
      · next hnlt' =>
        have hk : name = k := String.le_antisymm (String.not_lt.1 hnlt') (String.not_lt.1 hnlt)
        subst hk
        rw [List.filter_cons_of_neg (by simp), filter_ne_of_lt h.1]

/-- What an insertion leaves, in any order. -/
theorem perm_entries_insert (m : NameMap α) (name : String) (v : α) :
    (m.insert name v).entries.Perm ((name, v) :: (m.erase name).entries) :=
  perm_insertInto name v m.sorted

/-- An entry and what is left without it, in any order. -/
theorem perm_entries_erase {m : NameMap α} {name : String} {v : α} (h : m.get? name = some v) :
    m.entries.Perm ((name, v) :: (m.erase name).entries) := by
  obtain ⟨l, hsorted⟩ := m
  show l.Perm ((name, v) :: l.filter (·.1 ≠ name))
  replace h : l.lookup name = some v := h
  induction l with
  | nil => cases h
  | cons e rest ih =>
    obtain ⟨k, u⟩ := e
    rw [List.map_cons, List.pairwise_cons] at hsorted
    rw [List.lookup_cons] at h
    by_cases hk : name = k
    · subst hk
      rw [beq_self_eq_true] at h
      cases h
      rw [List.filter_cons_of_neg (by simp), filter_ne_of_lt hsorted.1]
    · have hother : (name == k) = false := by simpa using hk
      rw [hother] at h
      rw [List.filter_cons_of_pos (by simpa using Ne.symm hk)]
      exact ((ih hsorted.2 h).cons (k, u)).trans (.swap _ _ _)

theorem erase_of_get?_eq_none {m : NameMap α} {name : String} (h : m.get? name = none) :
    m.erase name = m := by
  ext1
  refine List.filter_eq_self.2 fun e he => ?_
  have hne : name ≠ e.1 := bne_iff_ne.1 (List.lookup_eq_none_iff.1 h e he)
  simpa using hne.symm

theorem get?_eq_some_iff {m : NameMap α} {name : String} {v : α} :
    m.get? name = some v ↔ (name, v) ∈ m.entries := by
  constructor
  · intro h
    exact (perm_entries_erase h).mem_iff.2 List.mem_cons_self
  · intro h
    obtain ⟨l, hsorted⟩ := m
    show l.lookup name = some v
    induction l with
    | nil => cases h
    | cons e rest ih =>
      obtain ⟨k, u⟩ := e
      rw [List.map_cons, List.pairwise_cons] at hsorted
      rcases List.mem_cons.1 h with heq | h
      · cases heq
        exact List.lookup_cons_self
      · have hlt : k < name := hsorted.1 name (List.mem_map_of_mem h)
        have hother : (name == k) = false := by
          simpa using fun heq : name = k => String.lt_irrefl name (heq ▸ hlt)
        rw [List.lookup_cons, hother]
        exact ih hsorted.2 h

theorem mem_names_iff {m : NameMap α} {name : String} :
    name ∈ m.names ↔ m.contains name = true := by
  rw [contains, Option.isSome_iff_exists, names, List.mem_map]
  constructor
  · rintro ⟨⟨n, v⟩, hmem, rfl⟩
    exact ⟨v, get?_eq_some_iff.2 hmem⟩
  · rintro ⟨v, hv⟩
    exact ⟨(name, v), get?_eq_some_iff.1 hv, rfl⟩

theorem get?_eq_none_iff {m : NameMap α} {name : String} : m.get? name = none ↔ name ∉ m.names := by
  rw [mem_names_iff, contains]
  cases m.get? name <;> simp

/-! ## What holds of all values -/

theorem mem_insertInto {name : String} {v : α} {l : List (String × α)} {x : String × α}
    (h : x ∈ insertInto name v l) : x = (name, v) ∨ x ∈ l := by
  induction l with
  | nil => exact .inl (List.mem_singleton.1 h)
  | cons e rest ih =>
    rw [insertInto] at h
    split at h
    · exact List.mem_cons.1 h
    · split at h
      · rcases List.mem_cons.1 h with rfl | h
        · exact .inr List.mem_cons_self
        · exact (ih h).imp_right (List.mem_cons_of_mem e)
      · exact (List.mem_cons.1 h).imp_right (List.mem_cons_of_mem e)

/-- `P` holds of all values. -/
def All (P : α → Prop) (m : NameMap α) : Prop := ∀ x ∈ m.entries, P x.2

namespace All

variable {P : α → Prop} {m : NameMap α}

theorem get? (h : m.All P) {name : String} {v : α} (hv : m.get? name = some v) : P v :=
  h (name, v) (get?_eq_some_iff.1 hv)

theorem insert (h : m.All P) (name : String) {v : α} (hv : P v) : (m.insert name v).All P := by
  intro x hx
  rcases mem_insertInto hx with rfl | hx
  · exact hv
  · exact h x hx

theorem erase (h : m.All P) (name : String) : (m.erase name).All P :=
  fun x hx => h x (List.mem_filter.1 hx).1

theorem modify (h : m.All P) (name : String) {f : α → α} (hf : ∀ v, P v → P (f v)) :
    (m.modify name f).All P := by
  intro x hx
  obtain ⟨y, hy, rfl⟩ := List.mem_map.1 hx
  split
  · exact hf y.2 (h y hy)
  · exact h y hy

end All

theorem all_map {m : NameMap α} {f : α → β} {P : β → Prop} :
    (m.map f).All P ↔ m.All fun v => P (f v) := List.forall_mem_map

end NameMap

end DemoReel
