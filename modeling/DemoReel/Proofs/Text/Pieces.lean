import DemoReel.Proofs.Text.Words

/-!
# Pieces between separators

Pieces hold no separator, and put together with separators between them they are the text again.
Main statements: where a text is cut does not depend on what stands behind a separator
(`splitOn_append`), nor on white space (`splitOn_squeeze`).
-/

namespace DemoReel.Text

variable {sep : Char}

theorem splitOn_ne_nil (sep : Char) (cs : List Char) : splitOn sep cs ≠ [] := by
  cases cs with
  | nil => simp [splitOn]
  | cons c cs =>
    rw [splitOn]
    split
    · simp
    · split <;> simp

theorem splitOn_append (sep : Char) (xs ys : List Char) :
    splitOn sep (xs ++ sep :: ys) = splitOn sep xs ++ splitOn sep ys := by
  induction xs with
  | nil => simp [splitOn]
  | cons c xs ih =>
    rw [List.cons_append, splitOn, splitOn, ih]
    split
    · rfl
    · cases h : splitOn sep xs with
      | nil => exact absurd h (splitOn_ne_nil sep xs)
      | cons p ps => rfl

theorem exists_splitOn_cons {c : Char} (h : c ≠ sep) (cs : List Char) :
    ∃ piece pieces, splitOn sep (c :: cs) = (c :: piece) :: pieces := by
  rw [splitOn, if_neg h]
  cases splitOn sep cs with
  | nil => exact ⟨[], [], rfl⟩
  | cons piece pieces => exact ⟨piece, pieces, rfl⟩

theorem splitOn_of_not_mem {cs : List Char} (h : sep ∉ cs) : splitOn sep cs = [cs] := by
  induction cs with
  | nil => rfl
  | cons c cs ih =>
    rw [List.mem_cons, not_or] at h
    rw [splitOn, if_neg (Ne.symm h.1), ih h.2]

theorem not_mem_of_mem_splitOn {cs piece : List Char} (h : piece ∈ splitOn sep cs) :
    sep ∉ piece := by
  induction cs generalizing piece with
  | nil =>
    rw [splitOn, List.mem_singleton] at h
    simp [h]
  | cons c cs ih =>
    rw [splitOn] at h
    split at h
    · rcases List.mem_cons.1 h with rfl | h
      · exact List.not_mem_nil
      · exact ih h
    · next hne =>
      split at h
      · next hnil => exact absurd hnil (splitOn_ne_nil sep cs)
      · next p ps hcons =>
        rw [hcons] at ih
        rcases List.mem_cons.1 h with rfl | h
        · rw [List.mem_cons, not_or]
          exact ⟨Ne.symm hne, ih List.mem_cons_self⟩
        · exact ih (List.mem_cons_of_mem p h)

/-- Pieces that were put together come apart again. -/
theorem splitOn_join {pieces : List (List Char)} (hne : pieces ≠ [])
    (h : ∀ p ∈ pieces, sep ∉ p) :
    splitOn sep (pieces.intersperse [sep]).flatten = pieces := by
  induction pieces with
  | nil => exact absurd rfl hne
  | cons p ps ih =>
    obtain ⟨hp, hps⟩ := List.forall_mem_cons.1 h
    cases ps with
    | nil => simpa using splitOn_of_not_mem hp
    | cons q qs =>
      have hjoin : ((p :: q :: qs).intersperse [sep]).flatten =
          p ++ sep :: ((q :: qs).intersperse [sep]).flatten := by simp
      rw [hjoin, splitOn_append, splitOn_of_not_mem hp, ih (by simp) hps]
      rfl

/-- White space has no say in where a text is cut, unless it is cut there. -/
theorem splitOn_squeeze (h : isBlank sep = false) (cs : List Char) :
    splitOn sep (squeeze cs) = (splitOn sep cs).map squeeze := by
  induction cs with
  | nil => rfl
  | cons c cs ih =>
    by_cases hsep : c = sep
    · subst hsep
      rw [squeeze_cons_solid h, splitOn, splitOn, if_pos rfl, if_pos rfl, ih]
      rfl
    · rw [splitOn, if_neg hsep]
      cases hpieces : splitOn sep cs with
      | nil => exact absurd hpieces (splitOn_ne_nil sep cs)
      | cons piece pieces =>
        rw [hpieces, List.map_cons] at ih
        cases hc : isBlank c with
        | true => rw [squeeze_cons_blank hc, ih, List.map_cons, squeeze_cons_blank hc]
        | false =>
          rw [squeeze_cons_solid hc, splitOn, if_neg hsep, ih, List.map_cons,
            squeeze_cons_solid hc]

end DemoReel.Text
