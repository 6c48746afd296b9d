import DemoReel.Proofs.Json.Lexemes
import DemoReel.Proofs.Json.Strings

/-!
# JSON values and their texts

A value that has a text is read from it again, and from any text that goes on behind it with a comma
or the end of a bracket. Main statement: the text of a value stands for this value
(`Value.Writable.ofText?_text`).
-/

namespace DemoReel.Json

open Text (Scanner)
open Text.Scanner

/-- The values that have a text. -/
inductive Value.Writable : Value → Prop where
  | null : Writable .null
  | bool (b : Bool) : Writable (.bool b)
  | number {l : Lexeme} (h : l.WellFormed) : Writable (.number l)
  | string (s : String) : Writable (.string (some s))
  | array {vs : List Value} (h : ∀ v ∈ vs, Writable v) : Writable (.array vs)
  | object {fs : List (String × Value)} (h : ∀ f ∈ fs, Writable f.2) :
    Writable (.object (fs.map fun f => (some f.1, f.2)))

/-! ## What stands between brackets -/

/-- The text of what stands between brackets, with the closing one. -/
def listText {α : Type} (text : α → List Char) (stop : Char) : List α → List Char
  | [] => [stop]
  | [a] => text a ++ [stop]
  | a :: b :: as => text a ++ ',' :: listText text stop (b :: as)

section

variable {α : Type} (text : α → List Char) (stop : Char)

theorem length_lt_listText (as : List α) :
    ∀ a ∈ as, (text a).length < (listText text stop as).length := by
  intro a ha
  fun_induction listText text stop as with
  | case1 => cases ha
  | case2 b =>
    obtain rfl := List.mem_singleton.1 ha
    simp
  | case3 b c as ih =>
    simp only [List.length_append, List.length_cons]
    rcases List.mem_cons.1 ha with rfl | ha
    · omega
    · have hlt := ih ha
      omega

theorem length_le_listText (as : List α) : as.length ≤ (listText text stop as).length := by
  fun_induction listText text stop as with
  | case1 => exact Nat.zero_le _
  | case2 b => simp
  | case3 b c as ih =>
    simp only [List.length_append, List.length_cons] at ih ⊢
    omega

end

theorem Value.write_array (vs : List Value) :
    (Value.array vs).write = '[' :: listText Value.write ']' vs := by
  have helements (v : Value) (vs : List Value) :
      v.write ++ writeElements vs = listText Value.write ']' (v :: vs) := by
    induction vs generalizing v with
    | nil => simp [writeElements, listText]
    | cons w vs ih => simp [writeElements, listText, ← ih]
  cases vs with
  | nil => simp [write, listText]
  | cons v vs => simp [write, ← helements]

/-- The text of a field. -/
def fieldText (f : Option String × Value) : List Char :=
  writeString (f.1.getD "") ++ ':' :: f.2.write

theorem Value.write_object (fs : List (Option String × Value)) :
    (Value.object fs).write = '\x7b' :: listText fieldText '\x7d' fs := by
  have hfields (f : Option String × Value) (fs : List (Option String × Value)) :
      fieldText f ++ writeFields fs = listText fieldText '\x7d' (f :: fs) := by
    induction fs generalizing f with
    | nil => simp [writeFields, listText]
    | cons g fs ih =>
      obtain ⟨k, v⟩ := g
      simp [writeFields, listText, ← ih, fieldText]
  cases fs with
  | nil => simp [write, listText]
  | cons f fs =>
    obtain ⟨k, v⟩ := f
    simp [write, ← hfields, fieldText]

namespace Read

theorem blanks_cons {c : Char} (h : isBlank c = false) (cs : List Char) :
    blanks (c :: cs) = some ((), c :: cs) := by
  have hnone : ∀ d ∈ ([] : List Char), isBlank d = true := nofun
  have hrun : run isBlank (c :: cs) = some ([], c :: cs) := by
    refine run_append hnone fun d hd => ?_
    cases hd
    exact h
  simp [blanks, hrun]

/-- Each of the items is read off its text, wherever it is closed. -/
def ReadsEach {α : Type} (item : Scanner α) (text : α → List Char) (as : List α) : Prop :=
  ∀ a ∈ as, ∀ rest, Closed rest → item (text a ++ rest) = some (a, rest)

variable {α : Type} {item : Scanner α} {text : α → List Char} {stop : Char}

theorem separated_listText (hstop : stop = ']' ∨ stop = '\x7d') {as : List α} (hne : as ≠ [])
    (h : ReadsEach item text as) {bound : Nat} (hbound : as.length ≤ bound) (rest : List Char) :
    separated item stop bound (listText text stop as ++ rest) = some (as, rest) := by
  have hsolid : isBlank stop = false := by rcases hstop with rfl | rfl <;> rfl
  fun_induction listText text stop as generalizing bound with
  | case1 => exact absurd rfl hne
  | case2 a =>
    obtain ⟨bound, rfl⟩ := Nat.exists_eq_succ_of_ne_zero (Nat.ne_of_gt hbound)
    have hitem := h a List.mem_cons_self (stop :: rest) (closed_cons (.inr hstop) rest)
    simp [separated, hitem, blanks_cons hsolid]
  | case3 a b as ih =>
    obtain ⟨bound, rfl⟩ := Nat.exists_eq_succ_of_ne_zero (Nat.ne_of_gt (Nat.zero_lt_of_lt hbound))
    have hcomma : ',' ≠ stop := by rcases hstop with rfl | rfl <;> decide
    have hitem := h a List.mem_cons_self (',' :: (listText text stop (b :: as) ++ rest))
      (closed_cons (.inl rfl) _)
    have hrest : separated item stop bound (listText text stop (b :: as) ++ rest) =
        some (b :: as, rest) :=
      ih (by simp) (fun c hc => h c (List.mem_cons_of_mem a hc)) (Nat.le_of_succ_le_succ hbound)
    simp [separated, hitem, blanks_cons (c := ',') rfl, hcomma, hrest]

theorem bracketed_listText (hstop : stop = ']' ∨ stop = '\x7d') {as : List α}
    (h : ReadsEach item text as)
    (hfirst : ∀ a ∈ as, ∃ c cs, text a = c :: cs ∧ isBlank c = false ∧ c ≠ stop)
    {bound : Nat} (hbound : as.length ≤ bound) (rest : List Char) :
    bracketed item stop bound (listText text stop as ++ rest) = some (as, rest) := by
  have hsolid : isBlank stop = false := by rcases hstop with rfl | rfl <;> rfl
  cases as with
  | nil => simp [bracketed, listText, blanks_cons hsolid, behind?]
  | cons a as =>
    obtain ⟨c, cs, htext, hc, hne⟩ := hfirst a List.mem_cons_self
    have hlist : ∃ tail, listText text stop (a :: as) ++ rest = c :: tail := by
      cases as <;> simp [listText, htext]
    obtain ⟨tail, htail⟩ := hlist
    have hitems := separated_listText hstop (by simp) h hbound rest
    rw [htail] at hitems ⊢
    simp [bracketed, blanks_cons hc, behind?, Ne.symm hne, hitems]

end Read

/-! ## Values -/

namespace Read

theorem field_append {value : Scanner Value} {k : String} {v : Value} {rest : List Char}
    (h : value (v.write ++ rest) = some (v, rest)) :
    field value (fieldText (some k, v) ++ rest) = some ((some k, v), rest) := by
  have hkey := stringBody_write k (':' :: (v.write ++ rest))
  simp [field, fieldText, writeString, blanks_cons (c := '"') rfl, behind?, hkey,
    blanks_cons (c := ':') rfl, h]

theorem isBlank_of_isDigit {c : Char} (h : c.isDigit = true) : isBlank c = false := by
  simp only [isBlank, Bool.or_eq_false_iff, beq_eq_false_iff_ne]
  refine ⟨⟨⟨?_, ?_⟩, ?_⟩, ?_⟩ <;> rintro rfl <;> exact absurd h (by decide)

/-- A digit starts a number and nothing else. -/
theorem value_of_isDigit (bound depth : Nat) {c : Char} (h : c.isDigit = true) (cs : List Char) :
    value bound (depth + 1) (c :: cs) = numberBody false (c :: cs) := by
  have hother {d : Char} (hd : d.isDigit = false) : c ≠ d := by
    rintro rfl
    exact absurd (h.symm.trans hd) (by decide)
  simp [value, blanks_cons (isBlank_of_isDigit h), hother]

end Read

namespace Value

/-- The value is read off its text, wherever it is closed. -/
def ReadsBack (v : Value) : Prop :=
  ∀ bound depth rest, v.write.length ≤ bound → v.write.length ≤ depth + 1 → Closed rest →
    Read.value bound (depth + 1) (v.write ++ rest) = some (v, rest)

/-- A text starts with no blank and does not end a bracket. -/
theorem Writable.exists_write {v : Value} (h : v.Writable) :
    ∃ c cs, v.write = c :: cs ∧ Read.isBlank c = false ∧ c ≠ ']' := by
  cases h with
  | null => exact ⟨'n', _, rfl, by decide, by decide⟩
  | bool b => cases b <;> exact ⟨_, _, rfl, by decide, by decide⟩
  | @number l h =>
    rw [write, l.write_eq]
    cases hsign : l.negative with
    | true => exact ⟨'-', _, rfl, by decide, by decide⟩
    | false =>
      obtain ⟨c, cs, hwhole⟩ := List.exists_cons_of_ne_nil h.whole.ne_nil
      have hc : c.isDigit = true := h.whole.digit c (hwhole ▸ List.mem_cons_self)
      refine ⟨c, cs ++ _, by rw [hwhole]; rfl, Read.isBlank_of_isDigit hc, ?_⟩
      rintro rfl
      exact absurd hc (by decide)
  | string s => exact ⟨'"', _, rfl, by decide, by decide⟩
  | array h => exact ⟨'[', _, write_array _, by decide, by decide⟩
  | object h => exact ⟨'\x7b', _, write_object _, by decide, by decide⟩

/-- A value inside of another is read back if the other leaves it depth enough. -/
theorem ReadsBack.value_eq {v : Value} (hread : v.ReadsBack) (h : v.Writable)
    {bound depth : Nat} {rest : List Char} (hbound : v.write.length ≤ bound)
    (hdepth : v.write.length ≤ depth) (hrest : Closed rest) :
    Read.value bound depth (v.write ++ rest) = some (v, rest) := by
  obtain ⟨c, cs, hwrite, -, -⟩ := h.exists_write
  cases depth with
  | zero => simp [hwrite] at hdepth
  | succ depth => exact hread bound depth rest hbound hdepth hrest

theorem readsBack_number {l : Lexeme} (h : l.WellFormed) : (number l).ReadsBack := by
  intro bound depth rest _ _ hrest
  have hbody := h.numberBody_write hrest
  rw [write, l.write_eq, List.append_assoc, List.append_assoc, List.append_assoc]
  cases hsign : l.negative with
  | true =>
    rw [hsign] at hbody
    simp [Read.value, Read.blanks_cons (c := '-') rfl, hbody]
  | false =>
    rw [hsign] at hbody
    obtain ⟨c, cs, hwhole⟩ := List.exists_cons_of_ne_nil h.whole.ne_nil
    have hc : c.isDigit = true := h.whole.digit c (hwhole ▸ List.mem_cons_self)
    rw [hwhole] at hbody ⊢
    exact (Read.value_of_isDigit bound depth hc _).trans hbody

theorem Writable.readsBack {v : Value} (h : v.Writable) : v.ReadsBack := by
  induction h with
  | null =>
    intro bound depth rest _ _ _
    simp [write, Read.value, Read.blanks_cons (c := 'n') rfl, behind?]
  | bool b =>
    intro bound depth rest _ _ _
    cases b with
    | true => simp [write, Read.value, Read.blanks_cons (c := 't') rfl, behind?]
    | false => simp [write, Read.value, Read.blanks_cons (c := 'f') rfl, behind?]
  | number h => exact readsBack_number h
  | string s =>
    intro bound depth rest _ _ _
    have hbody := Read.stringBody_write s rest
    simp [write, writeString, Read.value, Read.blanks_cons (c := '"') rfl, hbody]
  | @array vs h ih =>
    intro bound depth rest hbound hdepth _
    rw [write_array, List.length_cons] at hbound hdepth
    have hlength := length_le_listText write ']' vs
    have heach : Read.ReadsEach (Read.value bound depth) write vs := by
      intro v hv rest hrest
      have hlt := length_lt_listText write ']' vs v hv
      exact (ih v hv).value_eq (h v hv) (by omega) (by omega) hrest
    have hitems : Read.bracketed (Read.value bound depth) ']' bound
        (listText write ']' vs ++ rest) = some (vs, rest) :=
      Read.bracketed_listText (.inl rfl) heach (fun v hv => (h v hv).exists_write) (by omega) rest
    rw [write_array]
    simp [Read.value, Read.blanks_cons (c := '[') rfl, hitems]
  | @object fs h ih =>
    intro bound depth rest hbound hdepth _
    rw [write_object, List.length_cons] at hbound hdepth
    generalize hfields : fs.map (fun f => (some f.1, f.2)) = fields at hbound hdepth
    have hlength := length_le_listText fieldText '\x7d' fields
    have heach : Read.ReadsEach (Read.field (Read.value bound depth)) fieldText fields := by
      intro f hf rest hrest
      have hlt := length_lt_listText fieldText '\x7d' fields f hf
      rw [← hfields] at hf
      obtain ⟨g, hg, rfl⟩ := List.mem_map.1 hf
      have hvalue : g.2.write.length < (fieldText (some g.1, g.2)).length := by
        simp only [fieldText, List.length_append, List.length_cons]
        omega
      apply Read.field_append
      exact (ih g hg).value_eq (h g hg) (by omega) (by omega) hrest
    have hfirst : ∀ f ∈ fields, ∃ c cs,
        fieldText f = c :: cs ∧ Read.isBlank c = false ∧ c ≠ '\x7d' :=
      fun f _ => ⟨'"', _, rfl, by decide, by decide⟩
    have hitems : Read.bracketed (Read.field (Read.value bound depth)) '\x7d' bound
        (listText fieldText '\x7d' fields ++ rest) = some (fields, rest) :=
      Read.bracketed_listText (.inr rfl) heach hfirst (by omega) rest
    rw [write_object]
    simp [Read.value, Read.blanks_cons (c := '\x7b') rfl, hitems]

/-- A value that has a text is what its text stands for. -/
theorem Writable.ofText?_text {v : Value} (h : v.Writable) : ofText? v.text = some v := by
  have hread := h.readsBack (v.write.length + 1) v.write.length [] (by omega) (by omega) closed_nil
  have hblanks : Read.blanks [] = some ((), []) := rfl
  rw [List.append_nil] at hread
  simp [ofText?, text, whole?, StateT.run, hread, hblanks]

end Value

end DemoReel.Json
