import DemoReel.Text.Blank

/-!
# Words and white space

A word is a run of characters that are not white space. Main statements: cutting a text gives words
(`isWord_of_mem_words`) that hold all of it but the white space (`flatten_words`), and words that
are put together with white space between them are cut where they were joined
(`Spaced.words_eq`). Trimming takes white space away, too, but none that has something on either
side of it (`exists_append_trim`).
-/

namespace DemoReel.Text

/-- Characters that are not white space, at least one. -/
structure IsWord (w : List Char) : Prop where
  ne_nil : w ≠ []
  solid : ∀ c ∈ w, isBlank c = false

/-- Nothing but white space. -/
abbrev IsGap (cs : List Char) : Prop := ∀ c ∈ cs, isBlank c = true

/-- No white space at all. -/
abbrev IsSolid (cs : List Char) : Prop := ∀ c ∈ cs, isBlank c = false

theorem isSolid_of_all {cs : List Char} (h : cs.all (fun c => !isBlank c) = true) : IsSolid cs :=
  fun c hc => by simpa using List.all_eq_true.1 h c hc

theorem IsSolid.append {xs ys : List Char} (hx : IsSolid xs) (hy : IsSolid ys) :
    IsSolid (xs ++ ys) := List.forall_mem_append.2 ⟨hx, hy⟩

theorem IsSolid.cons {c : Char} {cs : List Char} (hc : isBlank c = false) (h : IsSolid cs) :
    IsSolid (c :: cs) := List.forall_mem_cons.2 ⟨hc, h⟩

theorem isGap_nil : IsGap [] := nofun

theorem isGap_singleton {c : Char} (h : isBlank c = true) : IsGap [c] :=
  List.forall_mem_singleton.2 h

theorem IsWord.append {v w : List Char} (hv : IsWord v) (hw : IsWord w) : IsWord (v ++ w) :=
  ⟨by simp [hv.ne_nil], IsSolid.append hv.solid hw.solid⟩

theorem isBlank_eq_false_of_isDigit {c : Char} (h : c.isDigit = true) : isBlank c = false := by
  have hrange : 48 ≤ c.toNat ∧ c.toNat ≤ 57 := by
    simpa [Char.isDigit, UInt32.le_iff_toNat_le] using h
  simp only [isBlank, Bool.or_eq_false_iff, Bool.and_eq_false_iff, decide_eq_false_iff_not,
    beq_eq_false_iff_ne]
  omega

theorem isBlank_toLower {c : Char} (h : isBlank c = true) : isBlank c.toLower = true := by
  have hlower : c.toLower = c := by
    have hrange : ¬ (65 ≤ c.toNat ∧ c.toNat ≤ 90) := fun hupper => by
      simp only [isBlank, Bool.or_eq_true, Bool.and_eq_true, decide_eq_true_eq,
        beq_iff_eq] at h
      omega
    unfold Char.toLower
    exact dif_neg fun hupper => hrange (by simpa [UInt32.le_iff_toNat_le] using hupper)
  rwa [hlower]

theorem isSolid_of_map_toLower {cs : List Char} (h : IsSolid (cs.map Char.toLower)) :
    IsSolid cs := by
  intro c hc
  have hlower := h _ (List.mem_map_of_mem hc)
  cases hblank : isBlank c with
  | false => rfl
  | true =>
    rw [isBlank_toLower hblank] at hlower
    cases hlower

/-! ## Texts without their white space -/

/-- What is left of a text when all white space is taken out. -/
def squeeze (cs : List Char) : List Char := cs.filter fun c => !isBlank c

theorem squeeze_cons_blank {c : Char} (h : isBlank c = true) (cs : List Char) :
    squeeze (c :: cs) = squeeze cs := List.filter_cons_of_neg (by simp [h])

theorem squeeze_cons_solid {c : Char} (h : isBlank c = false) (cs : List Char) :
    squeeze (c :: cs) = c :: squeeze cs := List.filter_cons_of_pos (by simp [h])

theorem squeeze_append (xs ys : List Char) : squeeze (xs ++ ys) = squeeze xs ++ squeeze ys :=
  List.filter_append xs ys

theorem squeeze_of_gap {cs : List Char} (h : IsGap cs) : squeeze cs = [] :=
  List.filter_eq_nil_iff.2 fun c hc => by simp [h c hc]

theorem squeeze_of_solid {cs : List Char} (h : IsSolid cs) : squeeze cs = cs :=
  List.filter_eq_self.2 fun c hc => by simp [h c hc]

theorem isSolid_squeeze (cs : List Char) : IsSolid (squeeze cs) := fun c hc => by
  simpa using (List.mem_filter.1 hc).2

theorem mem_of_mem_squeeze {cs : List Char} {c : Char} (h : c ∈ squeeze cs) : c ∈ cs :=
  (List.mem_filter.1 h).1

theorem dropWhile_of_solid {cs : List Char} (h : IsSolid cs) : cs.dropWhile isBlank = cs := by
  cases cs with
  | nil => rfl
  | cons c cs => exact List.dropWhile_cons_of_neg (by simp [h c List.mem_cons_self])

theorem trim_of_solid {cs : List Char} (h : IsSolid cs) : trim cs = cs := by
  have hreverse : IsSolid cs.reverse := fun c hc => h c (List.mem_reverse.1 hc)
  rw [trim, trimStart, dropWhile_of_solid h, trimEnd, dropWhile_of_solid hreverse,
    List.reverse_reverse]

/-- Only white space at either end is trimmed away. -/
theorem exists_append_trim (cs : List Char) :
    ∃ front back, IsGap front ∧ IsGap back ∧ cs = front ++ trim cs ++ back := by
  let rest := trimStart cs
  have hfront : cs.takeWhile isBlank ++ rest = cs := List.takeWhile_append_dropWhile
  have hback : trim cs ++ (rest.reverse.takeWhile isBlank).reverse = rest := by
    have hrest : rest.reverse.takeWhile isBlank ++ rest.reverse.dropWhile isBlank = rest.reverse :=
      List.takeWhile_append_dropWhile
    rw [trim, trimEnd, ← List.reverse_append, hrest, List.reverse_reverse]
  refine ⟨cs.takeWhile isBlank, (rest.reverse.takeWhile isBlank).reverse,
    List.all_eq_true.1 List.all_takeWhile, fun c hc => ?_, ?_⟩
  · exact List.all_eq_true.1 List.all_takeWhile c (List.mem_reverse.1 hc)
  · rw [List.append_assoc, hback, hfront]

theorem squeeze_trim (cs : List Char) : squeeze (trim cs) = squeeze cs := by
  obtain ⟨front, back, hfront, hback, hcs⟩ := exists_append_trim cs
  have hsqueezed := congrArg squeeze hcs
  rw [squeeze_append, squeeze_append, squeeze_of_gap hfront, squeeze_of_gap hback, List.nil_append,
    List.append_nil] at hsqueezed
  exact hsqueezed.symm

/-- No white space at either end. -/
structure IsTrimmed (cs : List Char) : Prop where
  first : ∀ c, cs.head? = some c → isBlank c = false
  last : ∀ c, cs.getLast? = some c → isBlank c = false

theorem isBlank_head_dropWhile {cs : List Char} {c : Char}
    (h : (cs.dropWhile isBlank).head? = some c) : isBlank c = false := by
  have hhead := List.head?_dropWhile_not isBlank cs
  rw [h] at hhead
  exact hhead

theorem isTrimmed_trim (cs : List Char) : IsTrimmed (trim cs) := by
  refine ⟨fun c hc => ?_, fun c hc => ?_⟩
  · -- What is left at the front has been there before the back was trimmed.
    have hsuffix : (trim cs).reverse <:+ (trimStart cs).reverse := by
      rw [trim, trimEnd, List.reverse_reverse]
      exact List.dropWhile_suffix isBlank
    obtain ⟨back, hback⟩ := List.reverse_suffix.1 hsuffix
    have hhead : (trimStart cs).head? = some c := by
      rw [← hback, List.head?_append, hc, Option.some_or]
    exact isBlank_head_dropWhile hhead
  · rw [trim, trimEnd, List.getLast?_reverse] at hc
    exact isBlank_head_dropWhile hc

/-! ## What a cut gives -/

/-- A cut drops the white space and nothing else. -/
theorem flatten_words (cs : List Char) : (words cs).flatten = squeeze cs := by
  induction cs with
  | nil => rfl
  | cons c cs ih =>
    rw [words]
    split
    · next hc => rw [squeeze_cons_blank hc, ih]
    · next hc =>
      rw [squeeze_cons_solid (by simpa using hc), ← ih]
      split
      · rfl
      · split <;> next hwords => simp [hwords]

theorem ne_nil_of_mem_words {cs w : List Char} (h : w ∈ words cs) : w ≠ [] := by
  induction cs generalizing w with
  | nil => cases h
  | cons c cs ih =>
    rw [words] at h
    split at h
    · exact ih h
    · split at h
      · rcases List.mem_cons.1 h with rfl | h
        · simp
        · exact ih h
      · split at h
        · simp [List.mem_singleton.1 h]
        · next v vs hwords =>
          rcases List.mem_cons.1 h with rfl | h
          · simp
          · exact ih (hwords ▸ List.mem_cons_of_mem v h)

theorem isWord_of_mem_words {cs w : List Char} (h : w ∈ words cs) : IsWord w := by
  refine ⟨ne_nil_of_mem_words h, fun c hc => ?_⟩
  have hmem : c ∈ (words cs).flatten := List.mem_flatten_of_mem h hc
  rw [flatten_words] at hmem
  exact isSolid_squeeze cs c hmem

/-! ## Where joined words are cut -/

theorem mem_of_mem_intercalate {sep : List Char} {ws : List (List Char)} {c : Char}
    (h : c ∈ sep.intercalate ws) : c ∈ sep ∨ ∃ w ∈ ws, c ∈ w := by
  induction ws with
  | nil => cases h
  | cons w ws ih =>
    cases ws with
    | nil => exact .inr ⟨w, by simp, by simpa using h⟩
    | cons w' ws =>
      rw [List.intercalate_cons_cons, List.mem_append, List.mem_append] at h
      rcases h with (h | h) | h
      · exact .inr ⟨w, List.mem_cons_self, h⟩
      · exact .inl h
      · exact (ih h).imp id fun ⟨v, hv, hc⟩ => ⟨v, List.mem_cons_of_mem w hv, hc⟩

theorem words_gap_append {gap : List Char} (h : IsGap gap) (rest : List Char) :
    words (gap ++ rest) = words rest := by
  induction gap with
  | nil => rfl
  | cons c gap ih =>
    rw [List.cons_append, words_cons_blank (h c List.mem_cons_self)]
    exact ih fun d hd => h d (List.mem_cons_of_mem c hd)

/-- A word ends where white space begins or the text is over. -/
theorem words_word_append {w : List Char} (hw : IsWord w) {rest : List Char}
    (h : atBoundary rest = true) : words (w ++ rest) = w :: words rest := by
  induction w with
  | nil => exact absurd rfl hw.ne_nil
  | cons c w ih =>
    obtain ⟨hc, hsolid⟩ := List.forall_mem_cons.1 hw.solid
    cases w with
    | nil => simp [words, hc, h]
    | cons d w =>
      have hd : isBlank d = false := hsolid d List.mem_cons_self
      rw [List.cons_append, words, ih ⟨by simp, hsolid⟩]
      simp [hc, hd, atBoundary]

/-- Words stand in a text in this order, with white space between them and nothing else around
them. -/
inductive Spaced : List (List Char) → List Char → Prop where
  | nil {gap : List Char} (hgap : IsGap gap) : Spaced [] gap
  | cons {gap w rest : List Char} {ws : List (List Char)} (hgap : IsGap gap)
    (hend : atBoundary rest = true) (hrest : Spaced ws rest) : Spaced (w :: ws) (gap ++ w ++ rest)

theorem Spaced.words_eq {ws : List (List Char)} {cs : List Char} (h : Spaced ws cs)
    (hws : ∀ w ∈ ws, IsWord w) : words cs = ws := by
  induction h with
  | nil hgap => simpa [words] using words_gap_append hgap []
  | cons hgap hend hrest ih =>
    obtain ⟨hw, hws⟩ := List.forall_mem_cons.1 hws
    rw [List.append_assoc, words_gap_append hgap, words_word_append hw hend, ih hws]

/-- The same white space may stand between all words. -/
theorem spaced_intercalate {sep tail : List Char} (hsep : sep ≠ []) (hgap : IsGap sep)
    (htail : IsGap tail) (ws : List (List Char)) : Spaced ws (sep.intercalate ws ++ tail) := by
  -- All words but the first have the separator in front of them.
  have hfront (w : List Char) (ws : List (List Char)) {gap : List Char} (h : IsGap gap) :
      Spaced (w :: ws) (gap ++ (sep.intercalate (w :: ws) ++ tail)) := by
    induction ws generalizing w gap with
    | nil =>
      have hend : atBoundary tail = true := by
        cases tail with
        | nil => rfl
        | cons c tail => exact htail c List.mem_cons_self
      simpa using Spaced.cons h hend (.nil htail) (w := w)
    | cons w' ws ih =>
      have hend : atBoundary (sep ++ (sep.intercalate (w' :: ws) ++ tail)) = true := by
        obtain ⟨c, sep, rfl⟩ := List.exists_cons_of_ne_nil hsep
        exact hgap c List.mem_cons_self
      rw [List.intercalate_cons_cons]
      simpa only [List.append_assoc] using Spaced.cons h hend (ih w' hgap) (w := w)
  cases ws with
  | nil => exact .nil (by simpa using htail)
  | cons w ws => exact hfront w ws isGap_nil

end DemoReel.Text
