import DemoReel.Proofs.Script.Unreadable
import Mathlib.Data.List.Basic

/-!
# Numbers of lines

A reader counts the lines that are text. With every line that is not, its count falls behind the
places of the lines by one (`exists_consumed`). Main statement: what a reader has numbered is
numbered by place exactly as long as no request was answered with an error, so whatever it is asked
for exactly if all lines are text (`physical_iff`).
-/

namespace DemoReel.Script

/-! ## Lines by place -/

/-- What `f` finds in each of the lines when they are numbered by place, from `n` on. -/
def byPlace {α : Type} (f : Nat → Option String → List α) (n : Nat) (ls : List (Option String)) :
    List α :=
  (ls.zipIdx n).flatMap fun (l, k) => f k l

section

variable {α : Type} (f : Nat → Option String → List α)

theorem byPlace_cons (n : Nat) (l : Option String) (ls : List (Option String)) :
    byPlace f n (l :: ls) = f n l ++ byPlace f (n + 1) ls := rfl

theorem byPlace_append (n : Nat) (xs ys : List (Option String)) :
    byPlace f n (xs ++ ys) = byPlace f n xs ++ byPlace f (n + xs.length) ys := by
  rw [byPlace, List.zipIdx_append, List.flatMap_append]
  rfl

/-- As long as all lines are text, to count them and to number them by place is the same. -/
theorem gather_eq_byPlace {ls : List (Option String)} (h : ∀ l ∈ ls, l.isSome = true) (n : Nat) :
    gather f n ls = byPlace f n ls := by
  induction ls generalizing n with
  | nil => rfl
  | cons l ls ih =>
    obtain ⟨hl, hls⟩ := List.forall_mem_cons.1 h
    have hcount : countText [l] = 1 := List.countP_singleton.trans (if_pos hl)
    rw [gather, byPlace_cons, hcount, ih hls]

end

theorem countP_isNone_eq_zero_iff {ls : List (Option String)} :
    ls.countP Option.isNone = 0 ↔ ∀ l ∈ ls, l.isSome = true := by
  simp [Option.isSome_iff_ne_none]

/-! ## Errors of a queue -/

/-- The item is a line that is not text. -/
def Item.isUnreadable : Item → Bool
  | .command _ => false
  | .unreadable _ => true

/-- How many of the answers are errors. -/
def failures (as : List (Except ScriptError Answer)) : Nat := as.countP (!·.isOk)

theorem failures_eq_zero_iff {as : List (Except ScriptError Answer)} :
    failures as = 0 ↔ ∀ a ∈ as, a.isOk = true := by
  simp [failures]

theorem countP_isUnreadable_queue (n : Nat) (ls : List (Option String)) :
    (queue n ls).countP Item.isUnreadable = ls.countP Option.isNone := by
  induction ls generalizing n with
  | nil => rfl
  | cons l ls ih =>
    have hitem : (itemOf n l).countP Item.isUnreadable = if l.isNone then 1 else 0 := by
      cases l with
      | none => rfl
      | some raw =>
        simp only [itemOf]
        cases Line.parse (n + 1) raw <;> rfl
    have hrest := ih (n + countText [l])
    rw [queue] at hrest ⊢
    rw [gather, List.countP_append, hitem, hrest, List.countP_cons, Nat.add_comm]

namespace Queue

theorem answers_cons (request : Request) (requests : List Request) (q : List Item) :
    answers (request :: requests) q =
      ((answer q request).1 :: (answers requests (answer q request).2).1,
        (answers requests (answer q request).2).2) := rfl

/-- An answer follows from the first item alone. A line that is not text is an error and is taken
out; what is left in its place can be answered. -/
theorem exists_answer_eq (i : Item) (request : Request) :
    ∃ a kept, (∀ q, answer (i :: q) request = (a, kept ++ q)) ∧ a.isOk = !i.isUnreadable ∧
      kept.countP Item.isUnreadable = 0 := by
  cases i with
  | unreadable n => cases request <;> exact ⟨_, [], fun _ => rfl, rfl, rfl⟩
  | command c =>
    cases request with
    | peek => exact ⟨_, [.command c], fun _ => rfl, rfl, rfl⟩
    | next time =>
      by_cases hdue : c.due ≤ time
      · refine ⟨.ok (.upcoming (.command c)), [], fun q => ?_, rfl, rfl⟩
        simp only [answer, next, if_pos hdue, Except.map, List.nil_append]
      · refine ⟨.ok (.upcoming .notYet), [.command c], fun q => ?_, rfl, rfl⟩
        simp only [answer, next, if_neg hdue, Except.map, List.singleton_append]

/-- There is an error for each line that is not text and is taken out. -/
theorem countP_isUnreadable_answers (requests : List Request) (q : List Item) :
    q.countP Item.isUnreadable =
      (answers requests q).2.countP Item.isUnreadable + failures (answers requests q).1 := by
  induction requests generalizing q with
  | nil => rfl
  | cons request requests ih =>
    have hlater := ih (answer q request).2
    rw [answers_cons]
    cases q with
    | nil => cases request <;> exact hlater
    | cons i q =>
      obtain ⟨a, kept, hanswer, hok, hkept⟩ := exists_answer_eq i request
      simp only [hanswer, List.countP_append, hkept, failures] at hlater
      simp only [hanswer, failures, List.countP_cons, hok, Bool.not_not]
      omega

/-- What stands behind a line that is not text has no say in the answers in front of its error. -/
theorem answers_append_unreadable (requests : List Request) (front : List Item) (n : Nat)
    (back back' : List Item)
    (h : ∀ a ∈ (answers requests (front ++ .unreadable n :: back)).1, a.isOk = true) :
    (answers requests (front ++ .unreadable n :: back')).1 =
      (answers requests (front ++ .unreadable n :: back)).1 := by
  induction requests generalizing front with
  | nil => rfl
  | cons request requests ih =>
    rw [answers_cons] at h ⊢
    obtain ⟨hnow, hlater⟩ := List.forall_mem_cons.1 h
    cases front with
    | nil =>
      obtain ⟨a, kept, hanswer, hok, -⟩ := exists_answer_eq (.unreadable n) request
      rw [List.nil_append, hanswer, hok] at hnow
      cases hnow
    | cons i front =>
      obtain ⟨a, kept, hanswer, -, -⟩ := exists_answer_eq i request
      rw [List.cons_append, hanswer, ← List.append_assoc] at hlater
      rw [answers_cons, List.cons_append, List.cons_append, hanswer, hanswer, ← List.append_assoc,
        ← List.append_assoc, ih (kept ++ front) hlater]

/-- Every line that is not text can be come to. -/
theorem exists_failure {q : List Item} (h : ∃ i ∈ q, i.isUnreadable = true) :
    ∃ requests, ∃ a ∈ (answers requests q).1, a.isOk = false := by
  induction q with
  | nil => simp at h
  | cons i q ih =>
    cases i with
    | unreadable n => exact ⟨[.peek], _, List.mem_cons_self, rfl⟩
    | command c =>
      obtain ⟨requests, a, ha, herror⟩ := ih (by simpa [Item.isUnreadable] using h)
      refine ⟨.next c.due :: requests, a, ?_, herror⟩
      simp only [answers, answer, next, Int.le_refl, if_true]
      exact List.mem_cons_of_mem _ ha

end Queue

/-! ## Readers -/

namespace Reader

theorem answers_ofLines (ls : List (Option String)) (requests : List Request) (j : Journal) :
    ((ofLines ls).answers requests j).1 = (Queue.answers requests (queue 0 ls)).1 := by
  obtain ⟨r, j', read, heq, -⟩ := (holds_ofLines ls).answers requests j
  rw [heq]

/-- After some requests a reader has consumed lines from the front. It has counted those that are
text and warned of the malformed ones, and every other one was an error. -/
theorem exists_consumed (ls : List (Option String)) (requests : List Request) (j : Journal) :
    let run := (ofLines ls).answers requests j
    ∃ read rest, ls = read ++ rest ∧ run.2.1.feed = .lines rest ∧
      run.2.1.linesRead = countText read ∧ read.length = run.2.1.linesRead + failures run.1 ∧
      warnings run.2.2 = warnings j ++ skips 0 read := by
  obtain ⟨r, j', read, heq, hholds, rest, hfeed, hrest, hcount, hwarnings⟩ :=
    (holds_ofLines ls).answers requests j
  obtain rfl : ls = read ++ rest := Feed.lines.inj hfeed
  obtain ⟨ls', hrest', hqueue⟩ := hholds
  obtain rfl : rest = ls' := Feed.lines.inj (hrest.symm.trans hrest')
  have hcounted : r.linesRead = countText read := hcount.trans (Nat.zero_add _)
  -- The command that the reader may hold is no error.
  have hpending : (r.pending.toList.map Item.command).countP Item.isUnreadable = 0 := by
    cases r.pending <;> rfl
  have herrors := Queue.countP_isUnreadable_answers requests (queue 0 (read ++ rest))
  rw [← hqueue, List.countP_append, hpending, countP_isUnreadable_queue, countP_isUnreadable_queue,
    List.countP_append, Nat.zero_add] at herrors
  have hlength : read.length = countText read + read.countP Option.isNone := by
    rw [countText, List.length_eq_countP_add_countP Option.isSome]
    exact congrArg (_ + ·) (List.countP_congr fun l _ => by cases l <;> simp)
  rw [heq]
  exact ⟨read, rest, rfl, hrest, hcounted, by dsimp only; omega, hwarnings⟩

/-- All numbers that a reader of `ls` has come to give are those of the places where the lines
stand, counted from one. -/
structure Physical (ls : List (Option String)) (requests : List Request) (j : Journal)
    (run : List (Except ScriptError Answer) × Reader × Journal) : Prop where
  /-- Those of commands and of errors. -/
  answers : run.1 = (Queue.answers requests (byPlace itemOf 0 ls)).1
  /-- The count of the lines that are consumed, and the numbers of those that are warned of. -/
  consumed : ∃ read rest, ls = read ++ rest ∧ run.2.1.feed = .lines rest ∧
    run.2.1.linesRead = read.length ∧ warnings run.2.2 = warnings j ++ byPlace skipOf 0 read

theorem physical_iff_of_lines (ls : List (Option String)) (requests : List Request) (j : Journal) :
    Physical ls requests j ((ofLines ls).answers requests j) ↔
      ∀ a ∈ ((ofLines ls).answers requests j).1, a.isOk = true := by
  obtain ⟨read, rest, hls, hfeed, hcount, hlength, hwarnings⟩ := exists_consumed ls requests j
  rw [← failures_eq_zero_iff]
  constructor
  · rintro ⟨-, read', rest', hls', hfeed', hcount', -⟩
    obtain rfl : rest = rest' := Feed.lines.inj (hfeed.symm.trans hfeed')
    obtain rfl : read = read' := List.append_cancel_right (hls.symm.trans hls')
    omega
  · intro hok
    have htext : ∀ l ∈ read, l.isSome = true := by
      refine List.countP_eq_length.1 ?_
      rw [← countText]
      omega
    have hskips : skips 0 read = byPlace skipOf 0 read := gather_eq_byPlace skipOf htext 0
    refine ⟨?_, read, rest, hls, hfeed, by omega, hskips ▸ hwarnings⟩
    rw [failures_eq_zero_iff, answers_ofLines] at hok
    rw [answers_ofLines]
    have hsplit := readable_append_beyond ls
    by_cases hbeyond : beyond ls = []
    · rw [queue, gather_eq_byPlace itemOf (beyond_eq_nil_iff.1 hbeyond)]
    · -- Up to the first line that is not text, and with it, the numbers are the same.
      obtain ⟨rest, hfirst⟩ := exists_beyond_eq hbeyond
      have hcounted : queue 0 ls = byPlace itemOf 0 (readable ls) ++
          .unreadable (0 + countText (readable ls) + 1) ::
            gather itemOf (0 + countText (readable ls) + countText [none]) rest := by
        conv => lhs; rw [← hsplit]
        rw [queue, gather_append, gather_eq_byPlace itemOf isSome_of_mem_readable, hfirst]
        rfl
      have hplaced : byPlace itemOf 0 ls = byPlace itemOf 0 (readable ls) ++
          .unreadable (0 + countText (readable ls) + 1) ::
            byPlace itemOf (0 + (readable ls).length + 1) rest := by
        have hall : countText (readable ls) = (readable ls).length :=
          List.countP_eq_length.2 isSome_of_mem_readable
        conv => lhs; rw [← hsplit]
        rw [byPlace_append, hfirst, byPlace_cons, hall]
        rfl
      rw [hcounted] at hok ⊢
      rw [hplaced]
      exact (Queue.answers_append_unreadable requests _ _ _ _ hok).symm

/-- A reader of bytes counts their physical lines as far as they are text: the lines that it has
consumed are those that it has counted and one more for each request that was answered with an
error. So all its numbers are those of physical lines as long as there was no error, and there can
be one exactly if some line is not text. -/
theorem physical_iff (bytes : List UInt8) :
    Text.IsCut (· == 10) bytes (Text.cutAfter (· == 10) bytes) ∧
    (∀ (requests : List Request) (j : Journal),
      let ls := (Text.cutAfter (· == 10) bytes).map Text.decode?
      let run := (ofLines (Text.decodedLines bytes)).answers requests j
      (∃ read rest, ls = read ++ rest ∧ run.2.1.feed = .lines rest ∧
        read.length = run.2.1.linesRead + failures run.1) ∧
      (Physical ls requests j run ↔ ∀ a ∈ run.1, a.isOk = true)) ∧
    ((∀ requests j, Physical (Text.decodedLines bytes) requests j
        ((ofLines (Text.decodedLines bytes)).answers requests j)) ↔
      ∀ l ∈ Text.decodedLines bytes, l.isSome = true) := by
  let ls := Text.decodedLines bytes
  refine ⟨Text.isCut_cutAfter _ bytes, fun requests j => ⟨?_, physical_iff_of_lines ls requests j⟩,
    fun hall => ?_, fun htext requests j => ?_⟩
  · obtain ⟨read, rest, hls, hfeed, -, hlength, -⟩ := exists_consumed ls requests j
    exact ⟨read, rest, hls, hfeed, hlength⟩
  · -- A line that is not text could be come to, and its error with it.
    refine countP_isNone_eq_zero_iff.1 ?_
    rw [← countP_isUnreadable_queue 0 ls]
    refine List.countP_eq_zero.2 fun i hi herror => ?_
    obtain ⟨requests, a, ha, hfails⟩ := Queue.exists_failure ⟨i, hi, herror⟩
    have hok := (physical_iff_of_lines ls requests #[]).1 (hall requests #[])
    rw [answers_ofLines] at hok
    exact absurd ((hok a ha).symm.trans hfails) (by decide)
  · refine (physical_iff_of_lines ls requests j).2 (failures_eq_zero_iff.1 ?_)
    have herrors := Queue.countP_isUnreadable_answers requests (queue 0 ls)
    rw [countP_isUnreadable_queue, countP_isNone_eq_zero_iff.2 htext] at herrors
    rw [answers_ofLines]
    omega

/-- A line that is not text, and `END` on the second line, which is read as one on the first. -/
theorem not_physical_unreadable_first :
    let bytes : List UInt8 := [0xFF, 10] ++ "5 END\n".toUTF8.toList
    let ls := Text.decodedLines bytes
    let requests : List Request := [.next 10, .next 10]
    let run := (ofLines ls).answers requests #[]
    ls = [none, some "5 END\n"] ∧
      run.1 = [.error (.reading 1 .notUtf8), .ok (.upcoming (.command ⟨5, .finish, [], 1⟩))] ∧
      run.2.1.feed = .lines [] ∧ run.2.1.linesRead = 1 ∧ ¬ Physical ls requests #[] run := by
  intro bytes ls requests run
  have hls : ls = [none, some "5 END\n"] := by decide +kernel
  have hfeed : run.2.1.feed = .lines [] := by decide +kernel
  have hcount : run.2.1.linesRead = 1 := by decide +kernel
  refine ⟨hls, by decide +kernel, hfeed, hcount, fun hphysical => ?_⟩
  obtain ⟨read, rest, hsplit, hrest, hlength, -⟩ := hphysical.consumed
  obtain rfl : [] = rest := Feed.lines.inj (hfeed.symm.trans hrest)
  rw [hls, List.append_nil] at hsplit
  rw [hcount, ← hsplit] at hlength
  exact absurd hlength (by decide)

end Reader

end DemoReel.Script
