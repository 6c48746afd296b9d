import DemoReel.Json.Reader
import DemoReel.Json.Writer
import DemoReel.Proofs.Text.Scanners

/-!
# Strings in JSON texts

Every character can stand in a string: some for themselves, the others in an escape. Main statement:
a string is read as it is written (`Read.stringBody_write`).
-/

namespace DemoReel.Json

open Text.Scanner

namespace Read

theorem charOf?_toNat (c : Char) : charOf? c.toNat = some c := by
  have hvalid : c.toNat.isValidChar := c.valid
  rw [charOf?, dif_pos hvalid]
  rfl

/-- The four digits behind `\u` are those of the character. -/
theorem hexUnit?_control : ∀ n < 0x20,
    hexUnit? ['0', '0', Nat.digitChar (n / 16), Nat.digitChar (n % 16)] = some n := by decide

theorem stringItems_escape {e c : Char} (h : escape? e = some c) (rest : List Char) :
    stringItems ('\\' :: e :: rest) =
      (stringItems rest).map fun read => (.char c :: read.1, read.2) := by
  have hnotUnit : e ≠ 'u' := by
    rintro rfl
    cases h
  rw [stringItems, h]
  · cases stringItems rest <;> rfl
  · intro _ _ _ _ _ he _
    exact hnotUnit he

theorem stringItems_control {c : Char} (h : c.toNat < 0x20) (rest : List Char) :
    stringItems ('\\' :: 'u' :: '0' :: '0' :: Nat.digitChar (c.toNat / 16) ::
        Nat.digitChar (c.toNat % 16) :: rest) =
      (stringItems rest).map fun read => (.unit c.toNat :: read.1, read.2) := by
  rw [stringItems, hexUnit?_control _ h]
  cases stringItems rest <;> rfl

theorem stringItems_plain {c : Char} (hquote : c ≠ '"') (hslash : c ≠ '\\')
    (h : 0x20 ≤ c.toNat) (rest : List Char) :
    stringItems (c :: rest) = (stringItems rest).map fun read => (.char c :: read.1, read.2) := by
  rw [stringItems, guard, if_pos h]
  · cases stringItems rest <;> rfl
  · exact hquote
  · intro _ _ _ _ _ hc _
    exact hslash hc
  · intro _ _ hc _
    exact hslash hc

theorem textOf?_unit {n : Nat} {c : Char} (h : charOf? n = some c) (items : List Item) :
    textOf? (.unit n :: items) = (textOf? items).map (c :: ·) := by
  cases items with
  | nil => simp [textOf?, h]
  | cons item items => cases item <;> simp [textOf?, h]

/-- A written character is read as one item, which stands for it. -/
theorem exists_item (c : Char) : ∃ item,
    (∀ rest, stringItems (writeChar c ++ rest) =
      (stringItems rest).map fun read => (item :: read.1, read.2)) ∧
    ∀ items, textOf? (item :: items) = (textOf? items).map (c :: ·) := by
  have hchar (d : Char) (items : List Item) :
      textOf? (.char d :: items) = (textOf? items).map (d :: ·) := rfl
  unfold writeChar
  split
  · exact ⟨.char '"', stringItems_escape rfl, hchar _⟩
  · exact ⟨.char '\\', stringItems_escape rfl, hchar _⟩
  · exact ⟨.char '\x08', stringItems_escape rfl, hchar _⟩
  · exact ⟨.char '\x0C', stringItems_escape rfl, hchar _⟩
  · exact ⟨.char '\n', stringItems_escape rfl, hchar _⟩
  · exact ⟨.char '\r', stringItems_escape rfl, hchar _⟩
  · exact ⟨.char '\t', stringItems_escape rfl, hchar _⟩
  · next hquote hslash _ _ _ _ _ =>
    by_cases hcontrol : c.toNat < 0x20
    · rw [if_pos hcontrol]
      exact ⟨.unit c.toNat, stringItems_control hcontrol, textOf?_unit (charOf?_toNat c)⟩
    · rw [if_neg hcontrol]
      exact ⟨.char c, stringItems_plain hquote hslash (Nat.le_of_not_lt hcontrol), hchar c⟩

theorem exists_items (cs rest : List Char) : ∃ items,
    stringItems (cs.flatMap writeChar ++ '"' :: rest) = some (items, rest) ∧
      textOf? items = some cs := by
  induction cs with
  | nil => exact ⟨[], rfl, rfl⟩
  | cons c cs ih =>
    obtain ⟨items, hitems, htext⟩ := ih
    obtain ⟨item, hitem, hchar⟩ := exists_item c
    refine ⟨item :: items, ?_, ?_⟩
    · rw [List.flatMap_cons, List.append_assoc, hitem, hitems]
      rfl
    · rw [hchar, htext]
      rfl

theorem stringBody_apply (cs : List Char) : stringBody cs =
    (stringItems cs).map fun read => ((textOf? read.1).map String.ofList, read.2) := by
  have hlift : (liftM (stringItems cs) : Text.Scanner (List Item × List Char)) cs =
      (stringItems cs).map fun read => (read, cs) := by
    cases stringItems cs <;> rfl
  show ((liftM (stringItems cs) : Text.Scanner (List Item × List Char)) cs).bind _ = _
  rw [hlift]
  cases stringItems cs <;> rfl

theorem stringBody_write (s : String) (rest : List Char) :
    stringBody (s.toList.flatMap writeChar ++ '"' :: rest) = some (some s, rest) := by
  obtain ⟨items, hitems, htext⟩ := exists_items s.toList rest
  rw [stringBody_apply, hitems, Option.map_some, htext, Option.map_some, String.ofList_toList]

end Read

end DemoReel.Json
