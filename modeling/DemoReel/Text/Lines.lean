/-!
# Physical lines

A text file is cut after each line feed; a last line without one counts too. Bytes are decoded line
by line, so one bad line does not spoil its neighbours.
-/

namespace DemoReel.Text

/-- Cuts after each element that ends a line; the pieces, ends included, make up the whole. -/
def cutAfter (ends : α → Bool) : List α → List (List α)
  | [] => []
  | a :: rest =>
    if ends a then [a] :: cutAfter ends rest
    else match cutAfter ends rest with
      | [] => [[a]]
      | l :: ls => (a :: l) :: ls

/-- The physical lines of a text, each with its line feed if it has one. -/
def lines (s : String) : List String :=
  (cutAfter (· == '\n') s.toList).map String.ofList

/-- The text that bytes encode in UTF-8, if they encode one. -/
def decode? (bytes : List UInt8) : Option String :=
  String.fromUTF8? (ByteArray.mk bytes.toArray)

/-- The physical lines of a byte sequence; a line that is not valid UTF-8 is `none`. -/
def decodedLines (bytes : List UInt8) : List (Option String) :=
  (cutAfter (· == 10) bytes).map decode?

/-- Nothing is lost in cutting. -/
theorem flatten_cutAfter (ends : α → Bool) (l : List α) : (cutAfter ends l).flatten = l := by
  induction l with
  | nil => rfl
  | cons a rest ih =>
    rw [cutAfter]
    split
    · simp [ih]
    · split
      · next h => simp [h] at ih; simp [ih]
      · next h => simp [h] at ih; simp [ih]

/-- `pieces` is `l` cut after each element that ends a line. -/
structure IsCut (ends : α → Bool) (l : List α) (pieces : List (List α)) : Prop where
  flatten_eq : pieces.flatten = l
  /-- Nothing is cut where no line ends, and no piece is empty. -/
  inner : ∀ p ∈ pieces, p ≠ [] ∧ ∀ a ∈ p.dropLast, ends a = false
  /-- Only the last piece may lack its end. -/
  ended : ∀ p ∈ pieces.dropLast, ∃ a, p.getLast? = some a ∧ ends a = true

theorem isCut_cutAfter (ends : α → Bool) (l : List α) : IsCut ends l (cutAfter ends l) := by
  refine ⟨flatten_cutAfter ends l, ?_, ?_⟩
  · induction l with
    | nil => simp [cutAfter]
    | cons a rest ih =>
      rw [cutAfter]
      split
      · simpa using ih
      · next ha =>
        split
        · simp
        · next l ls h =>
          rw [h] at ih
          obtain ⟨⟨hl, hinner⟩, hls⟩ := List.forall_mem_cons.1 ih
          refine List.forall_mem_cons.2 ⟨⟨by simp, ?_⟩, hls⟩
          rw [List.dropLast_cons_of_ne_nil hl]
          exact List.forall_mem_cons.2 ⟨by simpa using ha, hinner⟩
  · induction l with
    | nil => simp [cutAfter]
    | cons a rest ih =>
      rw [cutAfter]
      split
      · next ha =>
        cases hrest : cutAfter ends rest with
        | nil => simp
        | cons l ls =>
          rw [hrest] at ih
          rw [List.dropLast_cons_of_ne_nil (by simp)]
          exact List.forall_mem_cons.2 ⟨⟨a, rfl, ha⟩, ih⟩
      · split
        · simp
        · next l ls h =>
          rw [h] at ih
          cases ls with
          | nil => simp
          | cons m ms =>
            rw [List.dropLast_cons_of_ne_nil (by simp)] at ih ⊢
            obtain ⟨⟨b, hb, hends⟩, hms⟩ := List.forall_mem_cons.1 ih
            refine List.forall_mem_cons.2 ⟨⟨b, ?_, hends⟩, hms⟩
            rw [List.getLast?_cons, hb]; rfl

end DemoReel.Text
