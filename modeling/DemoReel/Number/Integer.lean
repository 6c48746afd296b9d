/-!
# Bounded integers in decimal

Reading goes digit by digit and stops at the first fault, so a text with two faults reports the one
further to the left; where one digit is bad and would overflow too, the bad digit wins.
-/

namespace DemoReel.Number

/-- Why a text is no integer of the wanted range. -/
inductive IntegerFault where
  | empty
  | badDigit
  | tooLarge
  | tooSmall
  deriving DecidableEq, Repr

def IntegerFault.message : IntegerFault → String
  | .empty => "cannot parse integer from empty string"
  | .badDigit => "invalid digit found in string"
  | .tooLarge => "number too large to fit in target type"
  | .tooSmall => "number too small to fit in target type"

/-- The value of an ASCII digit. -/
def digit? (c : Char) : Option Nat :=
  if '0' ≤ c ∧ c ≤ '9' then some (c.toNat - '0'.toNat) else none

/-- Reads digits after `acc`, with `overflow` as soon as the value passes `limit`. -/
def readDigits (limit : Nat) (overflow : IntegerFault) (acc : Nat) :
    List Char → Except IntegerFault Nat
  | [] => .ok acc
  | c :: cs =>
    match digit? c with
    | none => .error .badDigit
    | some d =>
      if limit < acc * 10 + d then .error overflow
      else readDigits limit overflow (acc * 10 + d) cs

/-- An unsigned integer up to `limit`; a leading plus sign is allowed, a minus sign is a bad
digit. -/
def readNat (limit : Nat) : List Char → Except IntegerFault Nat
  | [] => .error .empty
  | '+' :: cs => if cs.isEmpty then .error .badDigit else readDigits limit .tooLarge 0 cs
  | cs => readDigits limit .tooLarge 0 cs

/-- A signed integer from `-limit - 1` to `limit`. -/
def readInt (limit : Nat) : List Char → Except IntegerFault Int
  | [] => .error .empty
  | '+' :: cs =>
    if cs.isEmpty then .error .badDigit else (readDigits limit .tooLarge 0 cs).map Int.ofNat
  | '-' :: cs =>
    if cs.isEmpty then .error .badDigit
    else (readDigits (limit + 1) .tooSmall 0 cs).map fun (n : Nat) => -(n : Int)
  | cs => (readDigits limit .tooLarge 0 cs).map Int.ofNat

/-- The largest signed 64-bit integer. -/
def maxInt64 : Nat := 0x7FFFFFFFFFFFFFFF

/-- The smallest signed 64-bit integer. -/
def minInt64 : Int := -0x8000000000000000

/-- What is left of an integer in 64 signed bits. -/
def wrapInt64 (i : Int) : Int := (Int64.ofInt i).toInt

/-- The largest unsigned 32-bit integer. -/
def maxUInt32 : Nat := 0xFFFFFFFF

/-- The largest unsigned 64-bit integer. -/
def maxUInt64 : Nat := 0xFFFFFFFFFFFFFFFF

/-- Nothing is lost of an integer that 64 bits can hold. -/
theorem wrapInt64_eq_self {i : Int} (hmin : minInt64 ≤ i) (hmax : i ≤ maxInt64) :
    wrapInt64 i = i := by
  unfold minInt64 at hmin
  unfold maxInt64 at hmax
  exact Int64.toInt_ofInt_of_le hmin (Int.lt_add_one_iff.2 hmax)

/-- The decimal digits of a natural number, without leading zeros. -/
def digits (n : Nat) : List Char := Nat.toDigits 10 n

/-- Digits padded with zeros on the left to at least `width`. -/
def paddedDigits (width n : Nat) : List Char :=
  List.replicate (width - (digits n).length) '0' ++ digits n

/-- Padding does not change the value of digits. -/
theorem ofDigitChars_paddedDigits (width n : Nat) :
    Nat.ofDigitChars 10 (paddedDigits width n) 0 = n := by
  rw [paddedDigits, Nat.ofDigitChars_append, Nat.ofDigitChars_replicate_zero, Nat.mul_zero, digits,
    Nat.ofDigitChars_ten_toDigits]

/-- Numbers with the same padded digits are equal, also those that fill the width or more. -/
theorem paddedDigits_inj {width m n : Nat} (h : paddedDigits width m = paddedDigits width n) :
    m = n := by
  rw [← ofDigitChars_paddedDigits width m, h, ofDigitChars_paddedDigits]

theorem digit?_eq_some_iff {c : Char} {d : Nat} :
    digit? c = some d ↔ c.isDigit = true ∧ c.toNat - '0'.toNat = d := by
  have hdigit : ('0' ≤ c ∧ c ≤ '9') ↔ c.isDigit = true := by
    simp only [Char.isDigit, Bool.and_eq_true, decide_eq_true_eq]
    exact Iff.rfl
  unfold digit?
  by_cases h : '0' ≤ c ∧ c ≤ '9'
  · rw [if_pos h, Option.some_inj]
    exact ⟨fun hd => ⟨hdigit.1 h, hd⟩, fun hd => hd.2⟩
  · rw [if_neg h]
    exact ⟨fun hd => (nomatch hd), fun hd => absurd (hdigit.2 hd.1) h⟩

theorem ofDigitChars_cons_ten (c : Char) (cs : List Char) (acc : Nat) :
    Nat.ofDigitChars 10 (c :: cs) acc =
      Nat.ofDigitChars 10 cs (acc * 10 + (c.toNat - '0'.toNat)) := by
  rw [Nat.ofDigitChars_cons, Nat.mul_comm]

theorem le_ofDigitChars (cs : List Char) (acc : Nat) : acc ≤ Nat.ofDigitChars 10 cs acc := by
  induction cs generalizing acc with
  | nil => exact Nat.le_refl acc
  | cons c cs ih =>
    rw [ofDigitChars_cons_ten]
    have hle := ih (acc * 10 + (c.toNat - '0'.toNat))
    omega

/-- Digits are read exactly if they are all digits and their value is within the limit. -/
theorem readDigits_eq_ok_iff {limit acc n : Nat} {overflow : IntegerFault} {cs : List Char}
    (hacc : acc ≤ limit) :
    readDigits limit overflow acc cs = .ok n ↔
      (∀ c ∈ cs, c.isDigit = true) ∧ Nat.ofDigitChars 10 cs acc = n ∧ n ≤ limit := by
  induction cs generalizing acc with
  | nil =>
    simp only [readDigits, Except.ok.injEq, List.not_mem_nil, false_implies, implies_true, true_and]
    exact ⟨fun h => ⟨h, h ▸ hacc⟩, fun h => h.1⟩
  | cons c cs ih =>
    rw [readDigits, List.forall_mem_cons, ofDigitChars_cons_ten]
    cases hdigit : digit? c with
    | none =>
      have hc : ¬ c.isDigit = true := fun h => by
        rw [digit?_eq_some_iff.2 ⟨h, rfl⟩] at hdigit
        cases hdigit
      exact ⟨fun h => (nomatch h), fun h => absurd h.1.1 hc⟩
    | some d =>
      obtain ⟨hc, rfl⟩ := digit?_eq_some_iff.1 hdigit
      dsimp only
      by_cases hlimit : limit < acc * 10 + (c.toNat - '0'.toNat)
      · rw [if_pos hlimit]
        refine ⟨fun h => (nomatch h), fun ⟨_, hn, hle⟩ => ?_⟩
        have hlarger := le_ofDigitChars cs (acc * 10 + (c.toNat - '0'.toNat))
        omega
      · rw [if_neg hlimit, ih (Nat.le_of_not_lt hlimit)]
        exact ⟨fun h => ⟨⟨hc, h.1⟩, h.2⟩, fun h => ⟨h.1.2, h.2⟩⟩

theorem readNat_le {limit n : Nat} {cs : List Char} (h : readNat limit cs = .ok n) : n ≤ limit := by
  unfold readNat at h
  split at h
  · cases h
  · split at h
    · cases h
    · exact ((readDigits_eq_ok_iff (Nat.zero_le limit)).1 h).2.2
  · exact ((readDigits_eq_ok_iff (Nat.zero_le limit)).1 h).2.2

/-- The decimal text of an integer. -/
def integerText (i : Int) : String :=
  String.ofList (if i < 0 then '-' :: digits i.natAbs else digits i.natAbs)

end DemoReel.Number
