import DemoReel.Proofs.Script.Tokens

/-!
# Brackets over several words

A token is one word, or the words of a bracket from the one that opens it to the one that closes it.
Main statement: tokens hold the line but its white space, only the last may be left open, words
outside of brackets are tokens of their own, and tokens with any white space between them are the
tokens of what they make up (`tokenized`).
-/

namespace DemoReel.Script

open Text (IsGap IsWord Spaced squeeze words)

/-- The last bracket that one of the words opens is not closed by any of them. -/
def LeftOpen (ws : List (List Char)) : Prop :=
  ∃ front w back, ws = front ++ w :: back ∧ opensGroup w = true ∧ ∀ v ∈ back, closesGroup v = false

theorem LeftOpen.cons {w : List Char} {ws : List (List Char)} (h : LeftOpen ws) :
    LeftOpen (w :: ws) := by
  obtain ⟨front, v, back, rfl, hopens, hback⟩ := h
  exact ⟨w :: front, v, back, rfl, hopens, hback⟩

/-- Where no bracket is left open, the words before and the words behind have nothing to do with
each other. -/
theorem regroup_append (group? : Option (List (List Char))) (front back : List (List Char))
    (hopen : ¬ LeftOpen front) (hgroup : group? = none ∨ ∃ w ∈ front, closesGroup w = true) :
    regroup group? (front ++ back) = regroup group? front ++ regroup none back := by
  fun_induction regroup group? front with
  | case1 => rfl
  | case2 group =>
    rcases hgroup with hgroup | ⟨w, hw, -⟩
    · cases hgroup
    · cases hw
  | case3 group w ws hcloses ih =>
    rw [List.cons_append, regroup, if_pos hcloses, List.cons_append]
    rw [ih (fun h => hopen h.cons) (.inl rfl)]
  | case4 group w ws hcloses ih =>
    rw [List.cons_append, regroup, if_neg hcloses]
    apply ih (fun h => hopen h.cons)
    rcases hgroup with hgroup | ⟨v, hv, hv'⟩
    · cases hgroup
    · rcases List.mem_cons.1 hv with rfl | hv
      · exact absurd hv' hcloses
      · exact .inr ⟨v, hv, hv'⟩
  | case5 w ws hopens ih =>
    rw [List.cons_append, regroup, if_pos hopens]
    apply ih (fun h => hopen h.cons)
    cases hclosing : ws.any closesGroup with
    | true => exact .inr (List.any_eq_true.1 hclosing)
    | false =>
      refine absurd ⟨[], w, ws, rfl, hopens, fun v hv => ?_⟩ hopen
      simpa using List.any_eq_false.1 hclosing v hv
  | case6 w ws hopens ih =>
    rw [List.cons_append, regroup, if_neg hopens, List.cons_append]
    rw [ih (fun h => hopen h.cons) (.inl rfl)]

/-- What there is to say of the tokens of a line. -/
structure Tokenized (line : String) (ts : List String) : Prop where
  /-- The white space is gone, and nothing else. -/
  joined : String.join ts = String.ofList (squeeze line.toList)
  isWord : ∀ t ∈ ts, t ≠ "" ∧ ∀ c ∈ t.toList, Text.isBlank c = false
  /-- Only the last token can open a bracket without closing it. -/
  closed : ∀ t ∈ ts.dropLast, t.toList.head? = some '<' → t.toList.getLast? = some '>'
  /-- A word that opens no bracket and stands in none is a token by itself, with the words before it
  in the tokens before it and those behind it in those behind it. -/
  alone : ∀ front w back, words line.toList = front ++ w :: back → ¬ LeftOpen front →
    (w.head? = some '<' → w.getLast? = some '>') →
    ∃ before after, ts = before ++ String.ofList w :: after ∧
      String.join before = String.ofList front.flatten ∧
      String.join after = String.ofList back.flatten
  /-- With the same white space between any two, such as a single blank, the tokens are read again
  as they are. -/
  rejoined : ∀ gap : String, gap ≠ "" → IsGap gap.toList → tokenize (gap.intercalate ts) = ts
  /-- The white space need not be the same everywhere. -/
  stable : ∀ text : String, Spaced (ts.map String.toList) text.toList → tokenize text = ts

theorem join_map_ofList (ts : List (List Char)) :
    String.join (ts.map String.ofList) = String.ofList ts.flatten := by
  refine String.toList_inj.1 ?_
  rw [String.toList_join, String.toList_ofList, List.flatMap_map]
  simp [List.flatMap_def]

theorem tokenized (line : String) : Tokenized line (tokenize line) := by
  have hsettled := settled_tokens line.toList
  have htexts : (tokenize line).map String.toList = tokens line.toList := by
    simp [tokenize, Function.comp_def]
  have hstable (text : String) (hspaced : Spaced (tokens line.toList) text.toList) :
      tokenize text = tokenize line := by
    rw [tokenize, tokens_of_spaced hsettled hspaced]
    rfl
  refine ⟨?_, fun t ht => ?_, fun t ht hhead => ?_, ?_, fun gap hne hgap => ?_,
    fun text hspaced => hstable text (htexts ▸ hspaced)⟩
  · rw [tokenize, join_map_ofList, flatten_tokens]
  · have hword : IsWord t.toList :=
      hsettled.isWord _ (htexts ▸ List.mem_map_of_mem ht)
    refine ⟨fun hempty => hword.ne_nil ?_, hword.solid⟩
    rw [hempty]
    rfl
  · have hclosed := hsettled.closed t.toList
    rw [← htexts, ← List.map_dropLast] at hclosed
    have hopens := hclosed (List.mem_map_of_mem ht)
    simpa [opensGroup, hhead] using hopens
  · intro front w back hwords hopen hw
    have hsolo : opensGroup w = false := by
      rw [opensGroup]
      by_cases hhead : w.head? = some '<'
      · simp [hw hhead]
      · simp [hhead]
    have hsplit : tokens line.toList = regroup none front ++ w :: regroup none back := by
      rw [tokens, hwords, regroup_append none front _ hopen (.inl rfl), regroup, hsolo]
      rw [if_neg (by simp)]
    refine ⟨(regroup none front).map String.ofList, (regroup none back).map String.ofList,
      ?_, ?_, ?_⟩
    · simp [tokenize, hsplit]
    · rw [join_map_ofList, flatten_regroup]
      rfl
    · rw [join_map_ofList, flatten_regroup]
      rfl
  · apply hstable
    have hsep : gap.toList ≠ [] := fun hnil => hne (String.toList_inj.1 hnil)
    have hspaced := Text.spaced_intercalate hsep hgap Text.isGap_nil (tokens line.toList)
    rwa [List.append_nil, ← htexts, ← String.toList_intercalate, htexts] at hspaced

/-- The bracket that is closed is one token with the words in it, and so is the one that is not. -/
example : tokenize " fade 0 <1, <1 ,\t1> t0 <x y" = ["fade", "0", "<1,<1,1>", "t0", "<xy"] := by
  decide

end DemoReel.Script
