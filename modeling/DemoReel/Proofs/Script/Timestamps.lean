import DemoReel.Proofs.Fallible
import DemoReel.Proofs.Number.Numeral
import DemoReel.Script.Literal

/-!
# Timestamps

A time is written with any number of decimal digits, with an `s` behind them if they count seconds.
Main statement: a token is read as a time exactly if it is written so and its exact number of
milliseconds fits 64 signed bits, and then as that number (`timestamp?_exact`).
-/

namespace DemoReel.Script

open Number

/-- The texts of times, each with its number of milliseconds. -/
inductive TimeText : List Char → Nat → Prop where
  | milliseconds {ds : List Char} (h : IsNumeral ds) : TimeText ds (Nat.ofDigitChars 10 ds 0)
  | seconds {ds : List Char} {c : Char} (h : IsNumeral ds) (hc : c = 's' ∨ c = 'S') :
    TimeText (ds ++ [c]) (Nat.ofDigitChars 10 ds 0 * 1000)

/-! ## Digits and units -/

/-- Digits alone are milliseconds. -/
theorem timeUnits_of_digits {ds : List Char} (h : ∀ c ∈ ds, c.isDigit = true) :
    timeUnits ds = (ds, 1) := by
  unfold timeUnits
  split
  · next hlast => exact absurd (h _ (List.mem_of_getLast? hlast)) (by decide)
  · next hlast => exact absurd (h _ (List.mem_of_getLast? hlast)) (by decide)
  · rfl

/-- What stands before a suffix are seconds. -/
theorem timeUnits_of_suffix (ds : List Char) {c : Char} (hc : c = 's' ∨ c = 'S') :
    timeUnits (ds ++ [c]) = (ds, 1000) := by
  rcases hc with rfl | rfl <;> simp [timeUnits]

/-- One suffix is taken off at most. -/
theorem timeUnits_cases (cs : List Char) :
    timeUnits cs = (cs, 1) ∨
      ∃ ds c, (c = 's' ∨ c = 'S') ∧ cs = ds ++ [c] ∧ timeUnits cs = (ds, 1000) := by
  by_cases hsuffix : cs.getLast? = some 's' ∨ cs.getLast? = some 'S'
  · obtain ⟨c, hc, hlast⟩ : ∃ c, (c = 's' ∨ c = 'S') ∧ cs.getLast? = some c := by
      rcases hsuffix with h | h
      · exact ⟨'s', .inl rfl, h⟩
      · exact ⟨'S', .inr rfl, h⟩
    obtain ⟨ds, rfl⟩ := List.getLast?_eq_some_iff.1 hlast
    exact .inr ⟨ds, c, hc, rfl, timeUnits_of_suffix ds hc⟩
  · rw [not_or] at hsuffix
    left
    unfold timeUnits
    split
    · next hlast => exact absurd hlast hsuffix.1
    · next hlast => exact absurd hlast hsuffix.2
    · rfl

theorem timeText_iff {cs : List Char} {n : Nat} :
    TimeText cs n ↔ IsNumeral (timeUnits cs).1 ∧
      n = Nat.ofDigitChars 10 (timeUnits cs).1 0 * (timeUnits cs).2 := by
  constructor
  · intro h
    cases h with
    | milliseconds h =>
      rw [timeUnits_of_digits h.digit]
      exact ⟨h, (Nat.mul_one _).symm⟩
    | seconds h hc =>
      rw [timeUnits_of_suffix _ hc]
      exact ⟨h, rfl⟩
  · rintro ⟨h, rfl⟩
    rcases timeUnits_cases cs with hunits | ⟨ds, c, hc, rfl, hunits⟩
    · rw [hunits] at h ⊢
      rw [Nat.mul_one]
      exact .milliseconds h
    · rw [hunits] at h ⊢
      exact .seconds h hc

theorem timeUnits_pos (cs : List Char) : 0 < (timeUnits cs).2 := by
  rcases timeUnits_cases cs with hunits | ⟨ds, c, -, -, hunits⟩ <;> simp [hunits]

/-! ## Reading -/

theorem timestamp?_eq_some_iff {token : String} {t : Int} :
    timestamp? token = some t ↔ ∃ n : Nat, TimeText token.toList n ∧ n ≤ maxInt64 ∧ t = n := by
  simp only [timeText_iff]
  have hunit := timeUnits_pos token.toList
  unfold timestamp?
  generalize timeUnits token.toList = units at hunit ⊢
  obtain ⟨ds, unit⟩ := units
  dsimp only at hunit ⊢
  by_cases hnil : ds = []
  · subst hnil
    refine ⟨fun h => (nomatch h), ?_⟩
    rintro ⟨n, ⟨hnumeral, -⟩, -⟩
    exact absurd rfl hnumeral.ne_nil
  · have hempty : ¬ ds.isEmpty = true := by simpa using hnil
    rw [if_neg hempty, Option.map_eq_some_iff]
    constructor
    · rintro ⟨value, hread, rfl⟩
      rw [toOption_eq_some_iff] at hread
      obtain ⟨hdigits, rfl, hle⟩ := (readDigits_eq_ok_iff (Nat.zero_le _)).1 hread
      exact ⟨_, ⟨⟨hnil, hdigits⟩, rfl⟩, (Nat.le_div_iff_mul_le hunit).1 hle, rfl⟩
    · rintro ⟨n, ⟨hnumeral, rfl⟩, hle, rfl⟩
      refine ⟨Nat.ofDigitChars 10 ds 0, ?_, rfl⟩
      rw [toOption_eq_some_iff]
      exact (readDigits_eq_ok_iff (Nat.zero_le _)).2
        ⟨hnumeral.digit, rfl, (Nat.le_div_iff_mul_le hunit).2 hle⟩

/-- A timestamp lies in the time range. -/
theorem timestamp?_le {token : String} {t : Int} (h : timestamp? token = some t) :
    t ≤ maxInt64 := by
  obtain ⟨n, -, hle, rfl⟩ := timestamp?_eq_some_iff.1 h
  exact Int.ofNat_le.2 hle

/-- A time is read as it is written. -/
theorem timestamp?_integerText {t : Int} (h : 0 ≤ t) (hle : t ≤ maxInt64) :
    timestamp? (integerText t) = some t := by
  obtain ⟨n, rfl⟩ := Int.eq_ofNat_of_zero_le h
  refine timestamp?_eq_some_iff.2 ⟨n, ?_, Int.ofNat_le.1 hle, rfl⟩
  rw [toList_integerText h, Int.natAbs_natCast]
  have hvalue : Nat.ofDigitChars 10 (digits n) 0 = n := Nat.ofDigitChars_ten_toDigits
  have htext := TimeText.milliseconds (isNumeral_digits n)
  rwa [hvalue] at htext

/-- Times are read exactly: a token is a time if its digits and its suffix say so and the exact
number of milliseconds is in range, however many digits there are. No time is negative, and each
number of milliseconds in range is the time that its decimal text stands for. -/
theorem timestamp?_exact :
    (∀ (token : String) (t : Int), timestamp? token = some t ↔
      ∃ n : Nat, TimeText token.toList n ∧ n ≤ maxInt64 ∧ t = n) ∧
    (∀ (token : String) (t : Int), timestamp? token = some t → 0 ≤ t) ∧
    ∀ t : Int, 0 ≤ t → t ≤ maxInt64 → timestamp? (integerText t) = some t := by
  refine ⟨fun token t => timestamp?_eq_some_iff, fun token t h => timestamp?_nonneg h, fun t => ?_⟩
  exact timestamp?_integerText

/-- Zeros in front do not count, not even those that 64 bits could not hold. -/
example : timestamp? ("0000000000000000000000009223372036854775s") = some 9223372036854775000 := by
  decide

end DemoReel.Script
