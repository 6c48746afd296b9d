import DemoReel.Graphics.Color
import DemoReel.Number.Decimal
import DemoReel.Text.Blank

/-!
# Literals of a script

Times are whole milliseconds, or whole seconds with an `s` behind them. Colors stand in angle
brackets. Nothing here depends on where in a line the literal is found.
-/

namespace DemoReel.Script

open Number

/-- The digits of a timestamp and what one unit of them is worth. -/
def timeUnits (cs : List Char) : List Char × Nat :=
  match cs.getLast? with
  | some 's' | some 'S' => (cs.dropLast, 1000)
  | _ => (cs, 1)

/-- Milliseconds, or seconds with one `s` or `S` behind them. Digits only, and the value must fit
64 signed bits. -/
def timestamp? (token : String) : Option Int :=
  let (ds, unit) := timeUnits token.toList
  if ds.isEmpty then none
  else (readDigits (maxInt64 / unit) .tooLarge 0 ds).toOption.map fun n => ((n * unit : Nat) : Int)

theorem timestamp?_nonneg {token : String} {t : Int} (h : timestamp? token = some t) :
    0 ≤ t := by
  unfold timestamp? at h
  by_cases hds : (timeUnits token.toList).1 = []
  · simp [hds] at h
  · simp only [List.isEmpty_iff, if_neg hds, Option.map_eq_some_iff] at h
    obtain ⟨n, -, rfl⟩ := h
    exact Int.natCast_nonneg _

/-- What stands between `<` and `>`. -/
def bracketed? : List Char → Option (List Char)
  | '<' :: rest => if rest.getLast? = some '>' then some rest.dropLast else none
  | _ => none

/-- `<red,green,blue>` or `<red,green,blue,alpha>`; without an alpha the color is opaque. White
space around a component is ignored. -/
def color? (token : String) : Option Color := do
  let inner ← bracketed? token.toList
  let parts ← (Text.splitOn ',' inner).mapM fun part =>
    (readBinary32 (Text.trim part)).toOption
  match parts with
  | [r, g, b] => some ⟨r, g, b, 1⟩
  | [r, g, b, a] => some ⟨r, g, b, a⟩
  | _ => none

/-- The words `true` and `false`; case matters. -/
def boolean? : String → Option Bool
  | "true" => some true
  | "false" => some false
  | _ => none

end DemoReel.Script
