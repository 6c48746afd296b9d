import DemoReel.Number.Integer
import DemoReel.Proofs.Fallible

/-!
# Numerals

Digits, at least one. Main statements: natural numbers are written in numerals (`isNumeral_digits`)
that do not start with a zero, unless they are zero (`head?_digits_ne`); and a bounded integer is
read exactly from a numeral with or without a sign (`readInt_eq_ok_iff`).
-/

namespace DemoReel.Number

/-- At least one digit, and nothing else. -/
structure IsNumeral (ds : List Char) : Prop where
  ne_nil : ds ≠ []
  digit : ∀ c ∈ ds, c.isDigit = true

theorem isDigit_of_mem_digits {n : Nat} : ∀ c ∈ digits n, c.isDigit = true :=
  fun _ hc => Nat.isDigit_of_mem_toDigits (by decide) (by decide) hc

theorem isNumeral_digits (n : Nat) : IsNumeral (digits n) :=
  ⟨Nat.toDigits_ne_nil, isDigit_of_mem_digits⟩

theorem toList_integerText {t : Int} (h : 0 ≤ t) : (integerText t).toList = digits t.natAbs := by
  rw [integerText, if_neg (Int.not_lt.2 h), String.toList_ofList]

/-- No zero stands in front of the digits of a number. -/
theorem head?_digits_ne {n : Nat} (h : n ≠ 0) : (digits n).head? ≠ some '0' := by
  induction n using Nat.strongRecOn with
  | _ n ih =>
    by_cases hsmall : n < 10
    · rw [digits, Nat.toDigits_of_lt_base hsmall]
      simpa using h
    · have hrest : n / 10 ≠ 0 := by omega
      have hfirst := ih (n / 10) (by omega) hrest
      rw [digits] at hfirst ⊢
      rw [Nat.toDigits_of_base_le (by decide) (by omega)]
      cases hdigits : Nat.toDigits 10 (n / 10) with
      | nil => exact absurd hdigits Nat.toDigits_ne_nil
      | cons c cs =>
        rw [hdigits] at hfirst
        exact hfirst

namespace IsNumeral

variable {ds es : List Char}

theorem append (h : IsNumeral ds) (hes : ∀ c ∈ es, c.isDigit = true) : IsNumeral (ds ++ es) :=
  ⟨by simp [h.ne_nil], List.forall_mem_append.2 ⟨h.digit, hes⟩⟩

theorem take (h : IsNumeral ds) {n : Nat} (hn : 0 < n) : IsNumeral (ds.take n) := by
  refine ⟨?_, fun c hc => h.digit c (List.mem_of_mem_take hc)⟩
  rw [Ne, List.take_eq_nil_iff]
  exact not_or.2 ⟨by omega, h.ne_nil⟩

theorem drop (h : IsNumeral ds) {n : Nat} (hn : n < ds.length) : IsNumeral (ds.drop n) := by
  refine ⟨?_, fun c hc => h.digit c (List.mem_of_mem_drop hc)⟩
  rw [Ne, List.drop_eq_nil_iff]
  omega

end IsNumeral

/-! ## Numerals with a sign -/

/-- The texts of the integers from `-limit - 1` to `limit`. -/
inductive IsInteger (limit : Nat) : List Char → Int → Prop where
  | bare {ds : List Char} (numeral : IsNumeral ds) (le : Nat.ofDigitChars 10 ds 0 ≤ limit) :
      IsInteger limit ds (Nat.ofDigitChars 10 ds 0)
  | plus {ds : List Char} (numeral : IsNumeral ds) (le : Nat.ofDigitChars 10 ds 0 ≤ limit) :
      IsInteger limit ('+' :: ds) (Nat.ofDigitChars 10 ds 0)
  | minus {ds : List Char} (numeral : IsNumeral ds) (le : Nat.ofDigitChars 10 ds 0 ≤ limit + 1) :
      IsInteger limit ('-' :: ds) (-(Nat.ofDigitChars 10 ds 0))

theorem IsInteger.bounds {limit : Nat} {cs : List Char} {i : Int} (h : IsInteger limit cs i) :
    -(limit + 1 : Nat) ≤ i ∧ i ≤ limit := by
  cases h <;> omega

/-- Nothing is lost of an integer that is written in 64 bits. -/
theorem IsInteger.toInt_ofInt {cs : List Char} {i : Int} (h : IsInteger maxInt64 cs i) :
    (Int64.ofInt i).toInt = i := by
  have hmin : minInt64 ≤ -(maxInt64 + 1 : Nat) := by decide
  exact wrapInt64_eq_self (Int.le_trans hmin h.bounds.1) h.bounds.2

/-- Digits with nothing in front of them have neither sign. -/
theorem readInt_of_isNumeral {limit : Nat} {ds : List Char} (h : IsNumeral ds) :
    readInt limit ds = (readDigits limit .tooLarge 0 ds).map Int.ofNat := by
  obtain ⟨hne, hdigits⟩ := h
  unfold readInt
  split
  · exact absurd rfl hne
  · exact absurd (hdigits '+' List.mem_cons_self) (by decide)
  · exact absurd (hdigits '-' List.mem_cons_self) (by decide)
  · rfl

/-- An integer is read exactly if it is written as one that is within the bounds. -/
theorem readInt_eq_ok_iff {limit : Nat} {cs : List Char} {i : Int} :
    readInt limit cs = .ok i ↔ IsInteger limit cs i := by
  -- What is read from the digits behind a sign, or from digits without one.
  have hread : ∀ {bound : Nat} {overflow : IntegerFault} {ds : List Char} {n : Nat},
      readDigits bound overflow 0 ds = .ok n ↔
        (∀ c ∈ ds, c.isDigit = true) ∧ Nat.ofDigitChars 10 ds 0 = n ∧ n ≤ bound :=
    readDigits_eq_ok_iff (Nat.zero_le _)
  constructor
  · intro h
    unfold readInt at h
    split at h
    · cases h
    · split at h
      · cases h
      · next ds hempty =>
        obtain ⟨n, hn, rfl⟩ := map_eq_ok_iff.1 h
        obtain ⟨hdigits, rfl, hle⟩ := hread.1 hn
        exact .plus ⟨by simpa using hempty, hdigits⟩ hle
    · split at h
      · cases h
      · next ds hempty =>
        obtain ⟨n, hn, rfl⟩ := map_eq_ok_iff.1 h
        obtain ⟨hdigits, rfl, hle⟩ := hread.1 hn
        exact .minus ⟨by simpa using hempty, hdigits⟩ hle
    · next hnil _ _ =>
      obtain ⟨n, hn, rfl⟩ := map_eq_ok_iff.1 h
      obtain ⟨hdigits, rfl, hle⟩ := hread.1 hn
      exact .bare ⟨fun hcs => hnil hcs, hdigits⟩ hle
  · intro h
    cases h with
    | bare numeral le =>
      rw [readInt_of_isNumeral numeral, hread.2 ⟨numeral.digit, rfl, le⟩]
      rfl
    | plus numeral le =>
      simp only [readInt, List.isEmpty_eq_false_iff.2 numeral.ne_nil,
        hread.2 ⟨numeral.digit, rfl, le⟩]
      rfl
    | minus numeral le =>
      simp only [readInt, List.isEmpty_eq_false_iff.2 numeral.ne_nil,
        hread.2 ⟨numeral.digit, rfl, le⟩]
      rfl

end DemoReel.Number
