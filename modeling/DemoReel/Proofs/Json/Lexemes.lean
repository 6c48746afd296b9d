import DemoReel.Json.Number
import DemoReel.Json.Reader
import DemoReel.Json.Writer
import DemoReel.Proofs.Number.Numeral
import DemoReel.Proofs.Text.Scanners

/-!
# Numbers in JSON texts

The lexemes that can stand in a text are those with digits wherever digits belong, and no zero in
front of others; those of integers and of binary32 numbers are among them. Main statement: they are
read as they are written (`WellFormed.numberBody_write`).
-/

namespace DemoReel.Json

open Number (IsNumeral)
open Text (Scanner)
open Text.Scanner

/-- What stands behind a value: nothing, or a comma or the end of a bracket. -/
def Closed (rest : List Char) : Prop := ∀ c, rest.head? = some c → c = ',' ∨ c = ']' ∨ c = '\x7d'

theorem closed_nil : Closed [] := nofun

theorem closed_cons {c : Char} (h : c = ',' ∨ c = ']' ∨ c = '\x7d') (rest : List Char) :
    Closed (c :: rest) := by
  intro d hd
  cases hd
  exact h

/-- Digits wherever digits belong, and no zero in front of others. -/
structure Lexeme.WellFormed (l : Lexeme) : Prop where
  whole : IsNumeral l.whole
  leading : l.whole.head? ≠ some '0' ∨ l.whole.length = 1
  fraction : ∀ ds ∈ l.fraction, IsNumeral ds
  exponent : ∀ e ∈ l.exponent, IsNumeral e.2

namespace Read

theorem isDigit_eq (c : Char) : isDigit c = c.isDigit := by
  rw [isDigit]
  cases hc : c.isDigit with
  | true => rw [Number.digit?_eq_some_iff.2 ⟨hc, rfl⟩]; rfl
  | false =>
    cases hdigit : Number.digit? c with
    | none => rfl
    | some d =>
      obtain ⟨htrue, -⟩ := Number.digit?_eq_some_iff.1 hdigit
      rw [hc] at htrue
      cases htrue

theorem someDigits_append {ds rest : List Char} (h : IsNumeral ds)
    (hrest : ∀ c, rest.head? = some c → c.isDigit = false) :
    someDigits (ds ++ rest) = some (ds, rest) := by
  have hrun : run isDigit (ds ++ rest) = some (ds, rest) := by
    apply run_append
    · intro c hc
      rw [isDigit_eq]
      exact h.digit c hc
    · intro c hc
      rw [isDigit_eq]
      exact hrest c hc
  simp [someDigits, hrun, h.ne_nil]

/-- A character that stands behind a value does not go on with a number. -/
theorem not_goes_on {c : Char} (h : c = ',' ∨ c = ']' ∨ c = '\x7d') :
    c.isDigit = false ∧ c ≠ '.' ∧ c ≠ 'e' ∧ c ≠ 'E' := by
  rcases h with rfl | rfl | rfl <;> decide

end Read

/-! ## The parts of a number -/

/-- How digits behind the point are written. -/
def fractionText : Option (List Char) → List Char
  | none => []
  | some ds => '.' :: ds

/-- How an exponent is written. -/
def exponentText : Option (Bool × List Char) → List Char
  | none => []
  | some (negative, ds) => 'e' :: (if negative then '-' :: ds else ds)

theorem Lexeme.write_eq (l : Lexeme) : l.write = (if l.negative then ['-'] else []) ++
    (l.whole ++ (fractionText l.fraction ++ exponentText l.exponent)) := by
  obtain ⟨negative, whole, fraction, exponent⟩ := l
  cases fraction <;> cases exponent <;> simp [write, fractionText, exponentText]

variable {rest : List Char}

/-- Behind the digits of a number no digits follow, whatever parts of it are left. -/
theorem isDigit_head_exponentText (e : Option (Bool × List Char)) (hrest : Closed rest) :
    ∀ c, (exponentText e ++ rest).head? = some c → c.isDigit = false ∧ c ≠ '.' := by
  intro c hc
  cases e with
  | none =>
    obtain ⟨hdigit, hpoint, -⟩ := Read.not_goes_on (hrest c hc)
    exact ⟨hdigit, hpoint⟩
  | some e =>
    cases hc
    decide

theorem isDigit_head_fractionText (f : Option (List Char)) (e : Option (Bool × List Char))
    (hrest : Closed rest) :
    ∀ c, (fractionText f ++ (exponentText e ++ rest)).head? = some c → c.isDigit = false := by
  intro c hc
  cases f with
  | none => exact (isDigit_head_exponentText e hrest c hc).1
  | some ds =>
    cases hc
    decide

namespace Read

theorem fractionPart_append {f : Option (List Char)} (hf : ∀ ds ∈ f, IsNumeral ds)
    (hrest : ∀ c, rest.head? = some c → c.isDigit = false ∧ c ≠ '.') :
    fractionPart (fractionText f ++ rest) = some (f, rest) := by
  cases f with
  | none =>
    have hpoint : behind? ['.'] rest = none := by
      cases rest with
      | nil => rfl
      | cons c rest => exact if_neg (Ne.symm (hrest c rfl).2)
    simp [fractionPart, fractionText, hpoint]
  | some ds =>
    have hdigits := someDigits_append (hf ds rfl) fun c hc => (hrest c hc).1
    simp [fractionPart, fractionText, behind?, hdigits]

theorem exponentPart_append {e : Option (Bool × List Char)} (he : ∀ p ∈ e, IsNumeral p.2)
    (hrest : Closed rest) : exponentPart (exponentText e ++ rest) = some (e, rest) := by
  cases e with
  | none =>
    have hmarker : behind? ['e'] rest = none ∧ behind? ['E'] rest = none := by
      cases rest with
      | nil => exact ⟨rfl, rfl⟩
      | cons c rest =>
        obtain ⟨-, -, he, hE⟩ := not_goes_on (hrest c rfl)
        exact ⟨if_neg (Ne.symm he), if_neg (Ne.symm hE)⟩
    simp [exponentPart, exponentText, hmarker]
  | some p =>
    obtain ⟨negative, ds⟩ := p
    have hds : IsNumeral ds := he _ rfl
    have hdigits := someDigits_append hds fun c hc => (not_goes_on (hrest c hc)).1
    cases negative with
    | true => simp [exponentPart, exponentText, behind?, hdigits]
    | false =>
      -- The digits start with no sign.
      obtain ⟨c, cs, rfl⟩ := List.exists_cons_of_ne_nil hds.ne_nil
      have hc : c.isDigit = true := hds.digit c List.mem_cons_self
      have hminus : '-' ≠ c := by
        rintro rfl
        exact absurd hc (by decide)
      have hplus : '+' ≠ c := by
        rintro rfl
        exact absurd hc (by decide)
      rw [List.cons_append] at hdigits
      simp [exponentPart, exponentText, behind?, hminus, hplus, hdigits]

end Read

/-- A number is read as it is written, sign apart. -/
theorem Lexeme.WellFormed.numberBody_write {l : Lexeme} (h : l.WellFormed) (hrest : Closed rest) :
    Read.numberBody l.negative
      (l.whole ++ (fractionText l.fraction ++ (exponentText l.exponent ++ rest))) =
      some (.number l, rest) := by
  have hwhole := Read.someDigits_append h.whole
    (isDigit_head_fractionText l.fraction l.exponent hrest)
  have hfraction := Read.fractionPart_append h.fraction (isDigit_head_exponentText l.exponent hrest)
  have hexponent := Read.exponentPart_append h.exponent hrest
  simp [Read.numberBody, hwhole, h.leading, hfraction, hexponent]

/-! ## The numbers that are written -/

open Number

theorem Lexeme.wellFormed_ofInt (i : Int) : (ofInt i).WellFormed := by
  refine ⟨isNumeral_digits _, ?_, nofun, nofun⟩
  by_cases hzero : i.natAbs = 0
  · right
    rw [ofInt, hzero]
    rfl
  · exact .inl (head?_digits_ne hzero)

theorem isNumeral_zero : IsNumeral ['0'] := isNumeral_digits 0

/-- The shortest decimal of a number is no multiple of a power of ten if it is zero. -/
theorem shortest_ne_zero (i : Interval) : i.shortest.1 ≠ 0 ∨ i.shortest.2 = 0 := by
  have hsearch : ∀ fuel k p, i.search fuel k = some p → p.1 ≠ 0 := by
    intro fuel
    induction fuel with
    | zero => exact nofun
    | succ fuel ih =>
      intro k p h
      rw [Interval.search] at h
      split at h
      · split at h
        · exact ih _ _ h
        · next hne =>
          cases h
          exact hne
      · exact ih _ _ h
  rw [Interval.shortest]
  cases hfound : i.search 200 39 with
  | none => exact .inr rfl
  | some p => exact .inl (hsearch _ _ _ hfound)

/-- Digits that stand in front are those of the number, and it starts with no zero. -/
theorem leading_digits_append {n : Nat} {es : List Char} (h : n ≠ 0 ∨ es = []) :
    (digits n ++ es).head? ≠ some '0' ∨ (digits n ++ es).length = 1 := by
  by_cases hzero : n = 0
  · obtain rfl := h.resolve_left (not_not.2 hzero)
    right
    rw [hzero]
    rfl
  · left
    rw [List.head?_append, Option.or_of_isSome]
    · exact head?_digits_ne hzero
    · exact List.isSome_head?.2 (isNumeral_digits n).ne_nil

theorem Lexeme.wellFormed_ofDecimal (negative : Bool) {n : Nat} {k : Int} (h : n ≠ 0 ∨ k = 0) :
    (ofDecimal negative n k).WellFormed := by
  have hdigits := isNumeral_digits n
  have hlength : 0 < (digits n).length := List.length_pos_iff.2 hdigits.ne_nil
  have hzeros : ∀ m, ∀ c ∈ List.replicate m '0', c.isDigit = true := by
    intro m c hc
    rw [List.eq_of_mem_replicate hc]
    rfl
  unfold ofDecimal
  dsimp only
  split
  · next hwhole =>
    refine ⟨hdigits.append (hzeros _), leading_digits_append ?_, ?_, nofun⟩
    · rcases h with h | rfl
      · exact .inl h
      · exact .inr rfl
    · rintro _ ⟨⟩
      exact isNumeral_zero
  · next hwhole =>
    split
    · next hpoint =>
      have hne : n ≠ 0 := h.resolve_right (by omega)
      refine ⟨hdigits.take (by omega), .inl ?_, ?_, nofun⟩
      · rw [List.head?_take, if_neg (by omega)]
        exact head?_digits_ne hne
      · rintro _ ⟨⟩
        exact hdigits.drop (by omega)
    · split
      · refine ⟨isNumeral_zero, .inr rfl, ?_, nofun⟩
        rintro _ ⟨⟩
        refine ⟨by simp [hdigits.ne_nil], ?_⟩
        exact List.forall_mem_append.2 ⟨hzeros _, hdigits.digit⟩
      · refine ⟨hdigits.take (by decide), .inr ?_, ?_, ?_⟩
        · rw [List.length_take]
          omega
        · intro ds hds
          split at hds
          · cases hds
          · cases hds
            exact hdigits.drop (by omega)
        · rintro _ ⟨⟩
          exact isNumeral_digits _

theorem Lexeme.wellFormed_ofBinary32? {x : Float32} {l : Lexeme} (h : ofBinary32? x = some l) :
    l.WellFormed := by
  unfold ofBinary32? at h
  split at h
  · cases h
  · cases h
  · cases h
    refine ⟨isNumeral_zero, .inr rfl, ?_, nofun⟩
    rintro _ ⟨⟩
    exact isNumeral_zero
  · cases h
    exact wellFormed_ofDecimal _ (shortest_ne_zero _)

/-- Exactly the numbers that are not finite have no lexeme. -/
theorem Lexeme.ofBinary32?_eq_none_iff {x : Float32} :
    ofBinary32? x = none ↔ x.isFinite = false := by
  have hfinite : x.isFinite = x.toModel.unpack.isFinite := rfl
  rw [hfinite, ofBinary32?]
  cases x.toModel.unpack with
  | infinity s => exact ⟨fun _ => rfl, fun _ => rfl⟩
  | notANumber => exact ⟨fun _ => rfl, fun _ => rfl⟩
  | zero s => exact ⟨nofun, nofun⟩
  | finite s m e h => exact ⟨nofun, nofun⟩

/-! ## What integers are worth -/

/-- Digits whose value fits 64 bits are all read. -/
theorem significand_eq {ds : List Char} {n : Nat} (hds : ∀ c ∈ ds, c.isDigit = true)
    (hle : Nat.ofDigitChars 10 ds n ≤ maxUInt64) :
    significand n ds = (Nat.ofDigitChars 10 ds n, []) := by
  induction ds generalizing n with
  | nil => rfl
  | cons c cs ih =>
    obtain ⟨hc, hcs⟩ := List.forall_mem_cons.1 hds
    rw [ofDigitChars_cons_ten] at hle ⊢
    have hfits : ¬ maxUInt64 < n * 10 + (c.toNat - '0'.toNat) :=
      Nat.not_lt.2 (Nat.le_trans (le_ofDigitChars cs _) hle)
    rw [significand, digit?_eq_some_iff.2 ⟨hc, rfl⟩]
    simp only [hfits, if_false]
    exact ih hcs hle

theorem Lexeme.value?_ofInt {n : Nat} (h : n ≤ maxUInt64) :
    (ofInt n).value? = some (.integer n) := by
  have hdigits : Nat.ofDigitChars 10 (digits n) 0 = n := Nat.ofDigitChars_ten_toDigits
  have hread : significand 0 (digits n) = (n, []) := by
    rw [significand_eq isDigit_of_mem_digits (by rwa [hdigits]), hdigits]
  simp [value?, ofInt, hread]

end DemoReel.Json
