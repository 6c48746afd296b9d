import Mathlib.Data.List.TakeDrop
import Mathlib.Data.Option.Basic
import DemoReel.Text.Scanner

/-!
# What scanners make of a text

One law for each way to build a scanner. Main statement: a run of characters ends where the class of
its characters ends (`run_append`).
-/

namespace DemoReel.Text.Scanner

variable {α β : Type}

@[simp] theorem bind_apply (s : Scanner α) (f : α → Scanner β) (cs : List Char) :
    (s >>= f) cs = (s cs).bind fun taken => f taken.1 taken.2 := rfl

@[simp] theorem pure_apply (a : α) (cs : List Char) : (pure a : Scanner α) cs = some (a, cs) := rfl

@[simp] theorem map_apply (f : α → β) (s : Scanner α) (cs : List Char) :
    (f <$> s) cs = (s cs).map fun taken => (f taken.1, taken.2) := by
  show (s cs).bind _ = _
  cases s cs <;> rfl

@[simp] theorem discard_apply (s : Scanner α) (cs : List Char) :
    (discard s : Scanner Unit) cs = (s cs).map fun taken => ((), taken.2) :=
  map_apply (fun _ => ()) s cs

@[simp] theorem guard_apply (p : Prop) [Decidable p] (cs : List Char) :
    (guard p : Scanner Unit) cs = if p then some ((), cs) else none := by
  unfold guard
  split <;> rfl

@[simp] theorem ite_apply (p : Prop) [Decidable p] (s t : Scanner α) (cs : List Char) :
    (if p then s else t) cs = if p then s cs else t cs := by
  split <;> rfl

@[simp] theorem ahead_apply (front : String) (cs : List Char) :
    ahead front cs = some ((behind? front.toList cs).isSome, cs) := rfl

@[simp] theorem one_cons (c : Char) (cs : List Char) : one (c :: cs) = some (c, cs) := rfl

@[simp] theorem literal_apply (front : String) (cs : List Char) :
    literal front cs = (behind? front.toList cs).map fun rest => ((), rest) := rfl

theorem run_append {p : Char → Bool} {front rest : List Char} (hfront : ∀ c ∈ front, p c = true)
    (hrest : ∀ c, rest.head? = some c → p c = false) :
    run p (front ++ rest) = some (front, rest) := by
  have htail : rest.takeWhile p = [] ∧ rest.dropWhile p = rest := by
    cases rest with
    | nil => exact ⟨rfl, rfl⟩
    | cons c rest =>
      have hc := hrest c rfl
      simp [hc]
  rw [run, List.span_eq_takeWhile_dropWhile, List.takeWhile_append_of_pos hfront,
    List.dropWhile_append_of_pos hfront, htail.1, htail.2, List.append_nil]

end DemoReel.Text.Scanner
