import Mathlib.Algebra.Group.Defs
import DemoReel.Number.Integer

/-!
# Sums that wrap around

Sums and differences of 64-bit integers. They form a group, so that what is moved forward and back
by the same amount is where it was, whatever has wrapped around in between. Main statements: where a
sum or a difference is exact (`toInt_add_of_le`, `toInt_sub_of_le`), and that a sum beyond the last
number is negative (`toInt_add_neg`).
-/

namespace DemoReel

namespace Number.Wrapping

/-- Scoped, so that elsewhere sums of 64-bit integers are found in one way only. -/
scoped instance group : AddCommGroup Int64 where
  add_assoc := Int64.add_assoc
  zero_add := Int64.zero_add
  add_zero := Int64.add_zero
  nsmul := nsmulRec
  zsmul := zsmulRec
  neg_add_cancel := Int64.add_left_neg
  add_comm := Int64.add_comm
  sub_eq_add_neg := fun _ _ => Int64.sub_eq_add_neg ..

end Number.Wrapping

namespace Number

variable {a b : Int64}

theorem toInt_le_maxInt64 (a : Int64) : a.toInt ≤ maxInt64 :=
  Int.lt_add_one_iff.1 (Int64.toInt_lt a)

/-- What is added does not wrap around if it is not negative and there is room for it. -/
theorem toInt_add_of_le (hb : 0 ≤ b) (hle : a.toInt + b.toInt ≤ maxInt64) :
    (a + b).toInt = a.toInt + b.toInt := by
  have hmin := Int64.le_toInt a
  have hb' : 0 ≤ b.toInt := Int64.le_iff_toInt_le.1 hb
  rw [Int64.toInt_add]
  unfold maxInt64 at hle
  exact Int.bmod_eq_of_le (by omega) (by omega)

/-- A sum beyond the last number starts again at the first one. -/
theorem toInt_add_neg (h : maxInt64 < a.toInt + b.toInt) : (a + b).toInt < 0 := by
  have ha := toInt_le_maxInt64 a
  have hb := toInt_le_maxInt64 b
  rw [Int64.toInt_add, Int.bmod_def]
  unfold maxInt64 at h ha hb
  split <;> omega

/-- Adding makes a number smaller if what is added is negative and there is room for it, or if there
is no room for it at the other end. -/
theorem toInt_add_lt_iff : (a + b).toInt < a.toInt ↔
    b.toInt < 0 ∧ minInt64 ≤ a.toInt + b.toInt ∨ maxInt64 < a.toInt + b.toInt := by
  have ha := toInt_le_maxInt64 a
  have hb := toInt_le_maxInt64 b
  have ha' := Int64.le_toInt a
  have hb' := Int64.le_toInt b
  rw [Int64.toInt_add, Int.bmod_def]
  unfold minInt64
  unfold maxInt64 at *
  split <;> omega

/-- The difference of two 64-bit times does not wrap around if it is not negative and one of them
could be as large. -/
theorem toInt_sub_of_le (hle : b.toInt ≤ a.toInt) (hlt : a.toInt - b.toInt ≤ maxInt64) :
    (a - b).toInt = a.toInt - b.toInt := by
  rw [Int64.toInt_sub]
  unfold maxInt64 at hlt
  exact Int.bmod_eq_of_le (by omega) (by omega)

end Number

end DemoReel
