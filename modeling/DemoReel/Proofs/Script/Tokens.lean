import DemoReel.Proofs.Text.Words
import DemoReel.Script.Token

/-!
# Tokens

The tokens of a line are words, and of these only the last may open a bracket without closing it:
wherever another word does, the words up to the bracket's end are put together. Main statement:
tokens that are written with white space between them are read as the same tokens
(`tokens_of_spaced`).
-/

namespace DemoReel.Script

open Text (IsWord IsGap words)

/-- Words of which only the last may open a bracket that it does not close. -/
structure Settled (ts : List (List Char)) : Prop where
  isWord : ∀ t ∈ ts, IsWord t
  closed : ∀ t ∈ ts.dropLast, opensGroup t = false

namespace Settled

variable {t : List Char} {ts : List (List Char)}

theorem nil : Settled [] := ⟨nofun, nofun⟩

theorem singleton (ht : IsWord t) : Settled [t] := ⟨by simpa using ht, nofun⟩

theorem cons (ht : IsWord t) (hclosed : opensGroup t = false) (hts : Settled ts) :
    Settled (t :: ts) := by
  refine ⟨List.forall_mem_cons.2 ⟨ht, hts.isWord⟩, ?_⟩
  cases ts with
  | nil => nofun
  | cons u us =>
    rw [List.dropLast_cons_of_ne_nil (by simp)]
    exact List.forall_mem_cons.2 ⟨hclosed, hts.closed⟩

theorem tail (h : Settled (t :: ts)) : Settled ts := by
  refine ⟨(List.forall_mem_cons.1 h.isWord).2, ?_⟩
  cases ts with
  | nil => nofun
  | cons u us =>
    have hclosed := h.closed
    rw [List.dropLast_cons_of_ne_nil (by simp)] at hclosed
    exact (List.forall_mem_cons.1 hclosed).2

theorem head_closed {u : List Char} (h : Settled (t :: u :: ts)) : opensGroup t = false :=
  h.closed t (by simp)

end Settled

theorem closesGroup_iff {w : List Char} : closesGroup w = true ↔ w.getLast? = some '>' := by
  simp [closesGroup]

/-- The words of a group make one word. -/
theorem isWord_flatten_reverse {group : List (List Char)} (hne : group ≠ [])
    (h : ∀ w ∈ group, IsWord w) : IsWord group.reverse.flatten := by
  induction group with
  | nil => exact absurd rfl hne
  | cons w group ih =>
    obtain ⟨hw, hgroup⟩ := List.forall_mem_cons.1 h
    rw [List.reverse_cons, List.flatten_concat]
    cases group with
    | nil => simpa using hw
    | cons v group => exact (ih (by simp) hgroup).append hw

/-- A group that its last word closes opens no other. -/
theorem opensGroup_flatten_reverse {w : List Char} (group : List (List Char))
    (h : closesGroup w = true) : opensGroup (w :: group).reverse.flatten = false := by
  have hlast : ((w :: group).reverse.flatten).getLast? = some '>' := by
    rw [List.reverse_cons, List.flatten_concat, List.getLast?_append, closesGroup_iff.1 h]
    rfl
  rw [opensGroup, hlast]
  simp

/-- Whatever group is open, the words that follow are put together to tokens of which only the last
may be open. -/
theorem settled_regroup (group? : Option (List (List Char))) (ws : List (List Char))
    (hgroup : ∀ group ∈ group?, group ≠ [] ∧ ∀ w ∈ group, IsWord w) (hws : ∀ w ∈ ws, IsWord w) :
    Settled (regroup group? ws) := by
  fun_induction regroup group? ws with
  | case1 => exact .nil
  | case2 group =>
    obtain ⟨hne, hwords⟩ := hgroup group rfl
    exact .singleton (isWord_flatten_reverse hne hwords)
  | case3 group w ws hcloses ih =>
    obtain ⟨hw, hws⟩ := List.forall_mem_cons.1 hws
    obtain ⟨-, hwords⟩ := hgroup group rfl
    have hall : ∀ v ∈ w :: group, IsWord v := List.forall_mem_cons.2 ⟨hw, hwords⟩
    exact .cons (isWord_flatten_reverse (by simp) hall) (opensGroup_flatten_reverse group hcloses)
      (ih nofun hws)
  | case4 group w ws hcloses ih =>
    obtain ⟨hw, hws⟩ := List.forall_mem_cons.1 hws
    obtain ⟨-, hwords⟩ := hgroup group rfl
    refine ih (fun group' hgroup' => ?_) hws
    cases hgroup'
    exact ⟨by simp, List.forall_mem_cons.2 ⟨hw, hwords⟩⟩
  | case5 w ws hopens ih =>
    obtain ⟨hw, hws⟩ := List.forall_mem_cons.1 hws
    refine ih (fun group' hgroup' => ?_) hws
    cases hgroup'
    exact ⟨by simp, by simpa using hw⟩
  | case6 w ws hopens ih =>
    obtain ⟨hw, hws⟩ := List.forall_mem_cons.1 hws
    exact .cons hw (by simpa using hopens) (ih nofun hws)

theorem settled_tokens (cs : List Char) : Settled (tokens cs) :=
  settled_regroup none (words cs) nofun fun _ => Text.isWord_of_mem_words

/-- Tokens are not put together any further. -/
theorem Settled.regroup_eq {ts : List (List Char)} (h : Settled ts) : regroup none ts = ts := by
  induction ts with
  | nil => rfl
  | cons t ts ih =>
    rw [regroup]
    cases ts with
    | nil => split <;> simp [regroup]
    | cons u us => rw [if_neg (by simp [h.head_closed]), ih h.tail]

theorem tokens_of_spaced {ts : List (List Char)} {cs : List Char} (h : Settled ts)
    (hspaced : Text.Spaced ts cs) : tokens cs = ts := by
  rw [tokens, hspaced.words_eq h.isWord, h.regroup_eq]

theorem tokens_intercalate {sep tail : List Char} {ts : List (List Char)} (h : Settled ts)
    (hsep : sep ≠ []) (hgap : IsGap sep) (htail : IsGap tail) :
    tokens (sep.intercalate ts ++ tail) = ts :=
  tokens_of_spaced h (Text.spaced_intercalate hsep hgap htail ts)

/-- Nothing is lost where words are put together. -/
theorem flatten_regroup (group? : Option (List (List Char))) (ws : List (List Char)) :
    (regroup group? ws).flatten = (group?.getD []).reverse.flatten ++ ws.flatten := by
  fun_induction regroup group? ws with
  | case1 => rfl
  | case2 group => simp
  | case3 group w ws _ ih => simp [ih]
  | case4 group w ws _ ih => simp [ih]
  | case5 w ws _ ih => simp [ih]
  | case6 w ws _ ih => simp [ih]

/-- The tokens hold all of a text but the white space. -/
theorem flatten_tokens (cs : List Char) : (tokens cs).flatten = Text.squeeze cs := by
  rw [tokens, flatten_regroup, Text.flatten_words]
  rfl

theorem mem_of_mem_tokens {cs t : List Char} {c : Char} (ht : t ∈ tokens cs) (hc : c ∈ t) :
    c ∈ cs := by
  have hmem : c ∈ (tokens cs).flatten := List.mem_flatten_of_mem ht hc
  rw [flatten_tokens] at hmem
  exact Text.mem_of_mem_squeeze hmem

/-- Whatever stands in a bracket, up to its end, makes one token. -/
theorem tokens_bracketed {body : List Char} (h : '>' ∉ body) :
    tokens ('<' :: body ++ ['>']) = ['<' :: Text.squeeze body ++ ['>']] := by
  have hflat : (tokens ('<' :: body ++ ['>'])).flatten = '<' :: Text.squeeze body ++ ['>'] := by
    rw [flatten_tokens, Text.squeeze_append, Text.squeeze_cons_solid (by decide)]
    rfl
  have hsettled := settled_tokens ('<' :: body ++ ['>'])
  match htokens : tokens ('<' :: body ++ ['>']) with
  | [] =>
    rw [htokens] at hflat
    cases hflat
  | [t] =>
    rw [htokens, List.flatten_singleton] at hflat
    rw [hflat]
  | t :: u :: ts =>
    rw [htokens] at hflat hsettled
    exfalso
    -- The first of several tokens would have to end in the one `>` that there is.
    have hne : t ≠ [] := (hsettled.isWord t (by simp)).ne_nil
    have hrest : (u :: ts).flatten ≠ [] := by
      have hu : u ≠ [] := (hsettled.isWord u (by simp)).ne_nil
      simp [hu]
    have hfront : t ++ (u :: ts).flatten.dropLast = '<' :: Text.squeeze body := by
      have hdrop := congrArg List.dropLast hflat
      rwa [List.flatten_cons, List.dropLast_append_of_ne_nil hrest, List.dropLast_concat] at hdrop
    have hhead : t.head? = some '<' := by
      obtain ⟨c, t, rfl⟩ := List.exists_cons_of_ne_nil hne
      exact congrArg some (List.cons_eq_cons.1 hfront).1
    have hlast : t.getLast? = some '>' := by
      have hclosed := hsettled.head_closed
      simpa [opensGroup, hhead] using hclosed
    have hmem : '>' ∈ '<' :: Text.squeeze body :=
      hfront ▸ List.mem_append_left _ (List.mem_of_getLast? hlast)
    rcases List.mem_cons.1 hmem with heq | hmem
    · exact absurd heq (by decide)
    · exact h (Text.mem_of_mem_squeeze hmem)

end DemoReel.Script
