import DemoReel.Journal
import DemoReel.Text.Lines

/-!
# Reading a script

A script is read command by command, with one command of lookahead: it is held until it is due.
Lines that say nothing are passed over, malformed ones are reported and passed over. Main statement:
an answered command leaves less to read (`remaining_lt_of_next`).
-/

namespace DemoReel.Script

/-- An opened script. -/
inductive Feed where
  /-- The physical lines that are left; a line that is not text is `none`. -/
  | lines (rest : List (Option String))
  /-- Every attempt to read fails. -/
  | broken (why : Fault)
  deriving DecidableEq, Repr

/-- What is left of a script. -/
structure Reader where
  feed : Feed
  linesRead : Nat := 0
  /-- The command that was read and is not due yet. -/
  pending : Option Command := none
  deriving DecidableEq, Repr

/-- What a script has to offer at a time. -/
inductive Upcoming where
  | command (c : Command)
  | notYet
  | endOfScript
  deriving DecidableEq, Repr

/-- Where a search for the next command stops. -/
structure Stop where
  found : Except ScriptError (Option Command)
  rest : List (Option String)
  linesRead : Nat
  journal : Journal

/-- The next command among the lines after line number `n`. A line that is not text ends the search
and is not counted. -/
def scan (n : Nat) (j : Journal) : List (Option String) → Stop
  | [] => ⟨.ok none, [], n, j⟩
  | none :: rest => ⟨.error (.reading (n + 1) .notUtf8), rest, n, j⟩
  | some raw :: rest =>
    match Line.parse (n + 1) raw with
    | .blank => scan (n + 1) j rest
    | .malformed why => scan (n + 1) (j.push (.lineSkipped (n + 1) why raw)) rest
    | .command c => ⟨.ok (some c), rest, n + 1, j.push (.commandRead c)⟩

theorem length_rest_scan_le (n : Nat) (j : Journal) (ls : List (Option String)) :
    (scan n j ls).rest.length ≤ ls.length := by
  fun_induction scan n j ls with
  | case1 => exact Nat.le_refl _
  | case2 => exact Nat.le_succ _
  | case3 _ _ _ _ _ ih => exact Nat.le_succ_of_le ih
  | case4 _ _ _ _ _ _ ih => exact Nat.le_succ_of_le ih
  | case5 => exact Nat.le_succ _

theorem length_rest_scan_lt {n : Nat} {j : Journal} {ls : List (Option String)} {c : Command}
    (h : (scan n j ls).found = .ok (some c)) : (scan n j ls).rest.length < ls.length := by
  fun_induction scan n j ls with
  | case1 => simp at h
  | case2 => simp at h
  | case3 _ _ _ _ _ ih => exact Nat.lt_succ_of_lt (ih h)
  | case4 _ _ _ _ _ _ ih => exact Nat.lt_succ_of_lt (ih h)
  | case5 => exact Nat.lt_succ_self _

namespace Reader

/-- A reader at the first of some physical lines. -/
def ofLines (ls : List (Option String)) : Reader := { feed := .lines ls }

/-- Makes sure that the lookahead is filled, if anything is left to fill it with. -/
def fill (r : Reader) (j : Journal) : Except ScriptError Unit × Reader × Journal :=
  match r.pending with
  | some _ => (.ok (), r, j)
  | none =>
    match r.feed with
    | .broken why => (.error (.reading (r.linesRead + 1) why), r, j)
    | .lines ls =>
      let stop := scan r.linesRead j ls
      let r := { r with feed := .lines stop.rest, linesRead := stop.linesRead }
      match stop.found with
      | .error e => (.error e, r, stop.journal)
      | .ok found => (.ok (), { r with pending := found }, stop.journal)

/-- When the next command is due, if there is one. -/
def peek (r : Reader) (j : Journal) : Except ScriptError (Option Int) × Reader × Journal :=
  match r.fill j with
  | (.error e, r, j) => (.error e, r, j)
  | (.ok (), r, j) => (.ok (r.pending.map (·.due)), r, j)

/-- The next command, if it is due at `time`. -/
def next (r : Reader) (time : Int) (j : Journal) :
    Except ScriptError Upcoming × Reader × Journal :=
  match r.fill j with
  | (.error e, r, j) => (.error e, r, j)
  | (.ok (), r, j) =>
    match r.pending with
    | none => (.ok .endOfScript, r, j)
    | some c =>
      if time < c.due then (.ok .notYet, r, j)
      else (.ok (.command c), { r with pending := none }, j)

/-- How much is left: the lines, and the command that is held. -/
def remaining (r : Reader) : Nat :=
  (match r.feed with
    | .lines ls => ls.length
    | .broken _ => 0) + (if r.pending.isSome then 1 else 0)

theorem remaining_fill_le (r : Reader) (j : Journal) :
    (r.fill j).2.1.remaining ≤ r.remaining := by
  unfold fill
  split
  · exact Nat.le_refl _
  · next hp =>
    split
    · exact Nat.le_refl _
    · next ls hf =>
      simp only
      split
      · simp only [remaining, hf, hp]
        have := length_rest_scan_le r.linesRead j ls
        simpa using this
      · next found h =>
        cases found with
        | none =>
          have := length_rest_scan_le r.linesRead j ls
          simpa [remaining, hf, hp] using this
        | some c =>
          have := length_rest_scan_lt h
          simp only [remaining, hf, hp, Option.isSome_some, Option.isSome_none, if_true]
          simp only [Bool.false_eq_true, if_false]
          omega

theorem remaining_lt_of_next {r r' : Reader} {time : Int} {j j' : Journal} {c : Command}
    (h : r.next time j = (.ok (.command c), r', j')) : r'.remaining < r.remaining := by
  have hle := remaining_fill_le r j
  unfold next at h
  split at h
  · simp at h
  · next r₁ j₁ hfill =>
    rw [hfill] at hle
    split at h
    · simp at h
    · next c' hp =>
      split at h
      · simp at h
      · simp only [Prod.mk.injEq] at h
        obtain ⟨-, rfl, -⟩ := h
        refine Nat.lt_of_lt_of_le ?_ hle
        simp [remaining, hp]

end Reader

end DemoReel.Script
