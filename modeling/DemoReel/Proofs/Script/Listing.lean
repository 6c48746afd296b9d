import DemoReel.Proofs.Script.Timestamps
import DemoReel.Proofs.Script.Tokens
import DemoReel.Proofs.Script.Unreadable

/-!
# Writing scripts and reading them again

The canonical spelling of a command is read as that command, whatever line it came from
(`Spellable.parse_text`). Main statement: a script that lists the canonical spellings of the
commands of another script holds the same commands, now numbered by their place in the list, and is
listed as itself (`commandsOf_listing`).
-/

namespace DemoReel

open Number

/-! ## One command -/

namespace Script

open Text (IsWord IsGap)

/-- What a line that holds a command looks like. -/
theorem Line.parse_eq_command_iff {n : Nat} {raw : String} {c : Command} :
    Line.parse n raw = .command c ↔
      ∃ stamp word, (tokens (uncommented raw.toList)).map String.ofList = stamp :: word :: c.args ∧
        timestamp? stamp = some c.due ∧ Keyword.ofText? word = some c.keyword ∧
        (c.keyword = .finish → c.args = []) ∧ c.line = n := by
  obtain ⟨due, keyword, args, line⟩ := c
  unfold parse
  generalize (tokens (uncommented raw.toList)).map String.ofList = ts
  constructor
  · intro h
    unfold ofTokens at h
    split at h
    · cases h
    · next stamp rest =>
      split at h
      · cases h
      · next due hdue =>
        split at h
        · cases h
        · next word args =>
          split at h
          · cases h
          · next keyword hkeyword =>
            split at h
            · cases h
            · next hfinish =>
              cases h
              exact ⟨stamp, word, rfl, hdue, hkeyword, by simpa using hfinish, rfl⟩
  · rintro ⟨stamp, word, rfl, hdue, hkeyword, hfinish, rfl⟩
    dsimp only at hdue hkeyword hfinish
    have hcomplete : ¬ (keyword = .finish ∧ args ≠ []) := fun h => h.2 (hfinish h.1)
    simp only [ofTokens, hdue, hkeyword, if_neg hcomplete]

/-- Keywords and times are words that open no bracket and hold no comment. -/
structure IsPlain (w : List Char) : Prop extends IsWord w where
  closed : opensGroup w = false
  uncommented : ';' ∉ w

theorem isPlain_keyword (k : Keyword) : IsPlain k.text.toList := by
  have hsolid : Text.IsSolid k.text.toList := Text.isSolid_of_all (by cases k <;> decide)
  refine ⟨⟨?_, hsolid⟩, ?_, ?_⟩ <;> cases k <;> decide

theorem isPlain_integerText {t : Int} (h : 0 ≤ t) : IsPlain (integerText t).toList := by
  rw [toList_integerText h]
  have hdigits := isDigit_of_mem_digits (n := t.natAbs)
  have hsolid : Text.IsSolid (digits t.natAbs) :=
    fun c hc => Text.isBlank_eq_false_of_isDigit (hdigits c hc)
  refine ⟨⟨Nat.toDigits_ne_nil, hsolid⟩, ?_, fun hc => ?_⟩
  · have hhead : (digits t.natAbs).head? ≠ some '<' :=
      fun hhead => absurd (hdigits _ (List.mem_of_head? hhead)) (by decide)
    simp [opensGroup, hhead]
  · exact absurd (hdigits _ hc) (by decide)

/-- A command that a line can hold. -/
structure Spellable (c : Command) : Prop where
  due_nonneg : 0 ≤ c.due
  due_le : c.due ≤ maxInt64
  args_settled : Settled (c.args.map String.toList)
  args_uncommented : ∀ a ∈ c.args, ';' ∉ a.toList
  bare : c.keyword = .finish → c.args = []

theorem spellable_of_parse {n : Nat} {raw : String} {c : Command}
    (h : Line.parse n raw = .command c) : Spellable c := by
  obtain ⟨stamp, word, htokens, hdue, -, hfinish, -⟩ := Line.parse_eq_command_iff.1 h
  have hlists : tokens (uncommented raw.toList) = (stamp :: word :: c.args).map String.toList := by
    rw [← htokens, List.map_map]
    simp [Function.comp_def]
  have hsettled := settled_tokens (uncommented raw.toList)
  rw [hlists] at hsettled
  refine ⟨timestamp?_nonneg hdue, timestamp?_le hdue, hsettled.tail.tail, fun a ha hc => ?_,
    hfinish⟩
  have htoken : a.toList ∈ tokens (uncommented raw.toList) := by
    rw [hlists]
    exact List.mem_map_of_mem (List.mem_cons_of_mem _ (List.mem_cons_of_mem _ ha))
  have hkept := List.all_eq_true.1 List.all_takeWhile _ (mem_of_mem_tokens htoken hc)
  exact absurd hkept (by decide)

/-- The words of the canonical spelling. -/
def Spellable.words (c : Command) : List (List Char) :=
  (integerText c.due).toList :: c.keyword.text.toList :: c.args.map String.toList

theorem toList_text (c : Command) : c.text.toList = [' '].intercalate (Spellable.words c) := by
  rw [Command.text, String.toList_intercalate]
  rfl

namespace Spellable

variable {c : Command}

theorem settled_words (h : Spellable c) : Settled (words c) :=
  .cons (isPlain_integerText h.due_nonneg).toIsWord (isPlain_integerText h.due_nonneg).closed
    (.cons (isPlain_keyword c.keyword).toIsWord (isPlain_keyword c.keyword).closed h.args_settled)

theorem uncommented_words (h : Spellable c) : ∀ w ∈ words c, ';' ∉ w := by
  refine List.forall_mem_cons.2 ⟨(isPlain_integerText h.due_nonneg).uncommented,
    List.forall_mem_cons.2 ⟨(isPlain_keyword c.keyword).uncommented, fun w hw => ?_⟩⟩
  obtain ⟨a, ha, rfl⟩ := List.mem_map.1 hw
  exact h.args_uncommented a ha

/-- The canonical spelling has blanks between its words and no line feed. -/
theorem mem_text (h : Spellable c) {d : Char} (hd : d ∈ c.text.toList) :
    d = ' ' ∨ Text.isBlank d = false ∧ d ≠ ';' := by
  rw [toList_text] at hd
  rcases Text.mem_of_mem_intercalate hd with hd | ⟨w, hw, hd⟩
  · exact .inl (List.mem_singleton.1 hd)
  · exact .inr ⟨(h.settled_words.isWord w hw).solid d hd,
      fun heq => h.uncommented_words w hw (heq ▸ hd)⟩

/-- The canonical spelling of a command is read as the command, also with white space behind it. -/
theorem parse_text (h : Spellable c) (n : Nat) {tail : String} (htail : IsGap tail.toList) :
    Line.parse n (c.text ++ tail) = .command { c with line := n } := by
  have hwhole : uncommented (c.text ++ tail).toList = c.text.toList ++ tail.toList := by
    rw [String.toList_append, uncommented, ← List.append_nil (_ ++ _),
      List.takeWhile_append_of_pos, List.takeWhile_nil]
    intro d hd
    rcases List.mem_append.1 hd with hd | hd
    · rcases h.mem_text hd with rfl | ⟨-, hne⟩
      · decide
      · simpa using hne
    · have hne : d ≠ ';' := by
        rintro rfl
        exact absurd (htail _ hd) (by decide)
      simpa using hne
  have htokens : tokens (uncommented (c.text ++ tail).toList) = words c := by
    rw [hwhole, toList_text]
    exact tokens_intercalate h.settled_words (by simp) (Text.isGap_singleton rfl) htail
  refine Line.parse_eq_command_iff.2 ⟨integerText c.due, c.keyword.text, ?_,
    timestamp?_integerText h.due_nonneg h.due_le, Keyword.ofText?_text c.keyword, h.bare, rfl⟩
  rw [htokens]
  simp [words, Function.comp_def]

end Spellable

end Script

/-! ## Whole scripts -/

/-- A line ends at its first end. -/
theorem Text.cutAfter_line_append {α : Type} {ends : α → Bool} {line rest : List α} {e : α}
    (hline : ∀ a ∈ line, ends a = false) (he : ends e = true) :
    cutAfter ends (line ++ e :: rest) = (line ++ [e]) :: cutAfter ends rest := by
  induction line with
  | nil => simp [cutAfter, he]
  | cons a line ih =>
    obtain ⟨ha, hline⟩ := List.forall_mem_cons.1 hline
    rw [List.cons_append, cutAfter, ih hline]
    simp [ha]

namespace Script

/-- The canonical spellings of commands, one to a line. -/
def listing (cs : List Command) : String := String.join (cs.map fun c => c.text ++ "\n")

/-- The same commands on the lines from number `n` on, one on each. -/
def renumbered (n : Nat) : List Command → List Command
  | [] => []
  | c :: cs => { c with line := n } :: renumbered (n + 1) cs

theorem listing_cons (c : Command) (cs : List Command) :
    listing (c :: cs) = c.text ++ "\n" ++ listing cs := by simp [listing]

/-- The spelling does not tell the number of the line. -/
theorem listing_renumbered (n : Nat) (cs : List Command) :
    listing (renumbered n cs) = listing cs := by
  induction cs generalizing n with
  | nil => rfl
  | cons c cs ih =>
    rw [renumbered, listing_cons, listing_cons, ih]
    rfl

section

variable {cs : List Command} (h : ∀ c ∈ cs, Spellable c)

include h

theorem lines_listing : Text.lines (listing cs) = cs.map fun c => c.text ++ "\n" := by
  induction cs with
  | nil => rfl
  | cons c cs ih =>
    obtain ⟨hc, hcs⟩ := List.forall_mem_cons.1 h
    have hline : ∀ d ∈ c.text.toList, (d == '\n') = false := by
      intro d hd
      rcases hc.mem_text hd with rfl | ⟨hsolid, -⟩
      · decide
      · refine beq_eq_false_iff_ne.2 ?_
        rintro rfl
        exact absurd hsolid (by decide)
    have htext : (listing (c :: cs)).toList = c.text.toList ++ '\n' :: (listing cs).toList := by
      simp [listing_cons]
    have hfirst : String.ofList (c.text.toList ++ ['\n']) = c.text ++ "\n" := by
      rw [String.ofList_append, String.ofList_toList]
    rw [Text.lines, htext, Text.cutAfter_line_append hline rfl, List.map_cons, hfirst]
    exact congrArg _ (ih hcs)

theorem commandsOf_listing_eq : commandsOf (listing cs) = renumbered 1 cs := by
  rw [commandsOf, lines_listing h]
  generalize 1 = k
  induction cs generalizing k with
  | nil => rfl
  | cons c cs ih =>
    obtain ⟨hc, hcs⟩ := List.forall_mem_cons.1 h
    have hparse : Line.parse k (c.text ++ "\n") = .command { c with line := k } :=
      hc.parse_text k (Text.isGap_singleton rfl)
    rw [List.map_cons, List.zipIdx_cons, List.filterMap_cons, renumbered, ih hcs]
    simp only [hparse, Line.command?]

end

theorem exists_parse_of_mem_queue {n : Nat} {ls : List (Option String)} {c : Command}
    (h : .command c ∈ queue n ls) : ∃ m raw, Line.parse m raw = .command c := by
  induction ls generalizing n with
  | nil => cases h
  | cons l ls ih =>
    rcases List.mem_append.1 h with h | h
    · cases l with
      | none => simp [itemOf] at h
      | some raw =>
        refine ⟨n + 1, raw, ?_⟩
        simp only [itemOf] at h
        split at h
        · next hline =>
          cases List.mem_singleton.1 h
          exact hline
        · cases h
    · exact ih h

theorem spellable_of_mem_commandsIn {ls : List (Option String)} {c : Command}
    (h : c ∈ commandsIn ls) : Spellable c := by
  obtain ⟨item, hitem, hc⟩ := List.mem_filterMap.1 h
  cases item with
  | unreadable => cases hc
  | command c' =>
    cases hc
    obtain ⟨m, raw, hparse⟩ := exists_parse_of_mem_queue hitem
    exact spellable_of_parse hparse

/-- A command that a line holds is held by its canonical spelling too. Hence a script that lists the
commands of any lines holds those commands, with only their line numbers changed; a reader that is
opened on it has them before it, and listing them again gives the same text. -/
theorem commandsOf_listing :
    (∀ (m n : Nat) (raw : String) (c : Command), Line.parse m raw = .command c →
      Line.parse n c.text = .command { c with line := n }) ∧
    ∀ ls : List (Option String),
      commandsOf (listing (commandsIn ls)) = renumbered 1 (commandsIn ls) ∧
      (Reader.ofLines ((Text.lines (listing (commandsIn ls))).map some)).Holds
        ((renumbered 1 (commandsIn ls)).map .command) ∧
      listing (commandsOf (listing (commandsIn ls))) = listing (commandsIn ls) := by
  refine ⟨fun m n raw c h => ?_, fun ls => ?_⟩
  · have hgap : Text.IsGap "".toList := Text.isGap_nil
    have hparse := (spellable_of_parse h).parse_text n hgap
    rwa [String.append_empty] at hparse
  · have hcommands : commandsOf (listing (commandsIn ls)) = renumbered 1 (commandsIn ls) :=
      commandsOf_listing_eq fun _ => spellable_of_mem_commandsIn
    refine ⟨hcommands, ?_, ?_⟩
    · rw [← hcommands]
      exact Reader.holds_text _
    · rw [hcommands, listing_renumbered]

end Script

end DemoReel
