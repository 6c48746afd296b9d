import DemoReel.Proofs.Script.Queue

/-!
# Scripts with lines that are not text

A reader comes to grief over the first line that is not text. Up to there it does what it would do
if the script ended before that line. Main statements: `next_extend`, and where the script would be
over, an error takes the place of its end (`next_extend_unreadable`).
-/

namespace DemoReel.Script

/-! ## Lines in front of more lines -/

/-- What a search in some lines finds, it finds when there are more lines behind them. -/
theorem scan_append_of_found {n : Nat} {j : Journal} {ls : List (Option String)} {c : Command}
    (h : (scan n j ls).found = .ok (some c)) (more : List (Option String)) :
    scan n j (ls ++ more) = { scan n j ls with rest := (scan n j ls).rest ++ more } := by
  fun_induction scan n j ls with
  | case1 => cases h
  | case2 => cases h
  | case3 n j raw rest hp ih => simp only [List.cons_append, scan, hp, ih h]
  | case4 n j raw rest why hp ih => simp only [List.cons_append, scan, hp, ih h]
  | case5 n j raw rest c hp => simp only [List.cons_append, scan, hp]

/-- A search that finds nothing goes on in the lines behind. -/
theorem scan_append_of_none {n : Nat} {j : Journal} {ls : List (Option String)}
    (h : (scan n j ls).found = .ok none) (more : List (Option String)) :
    scan n j (ls ++ more) = scan (scan n j ls).linesRead (scan n j ls).journal more := by
  fun_induction scan n j ls with
  | case1 => rfl
  | case2 => cases h
  | case3 n j raw rest hp ih => simp only [List.cons_append, scan, hp, ih h]
  | case4 n j raw rest why hp ih => simp only [List.cons_append, scan, hp, ih h]
  | case5 => cases h

def Feed.extend (more : List (Option String)) : Feed → Feed
  | .lines ls => .lines (ls ++ more)
  | .broken why => .broken why

namespace Reader

/-- The reader with more lines behind those that are left. -/
def extend (more : List (Option String)) (r : Reader) : Reader :=
  { r with feed := r.feed.extend more }

theorem extend_nil (r : Reader) : r.extend [] = r := by
  obtain ⟨feed, linesRead, pending⟩ := r
  cases feed with
  | lines ls =>
    show ({ feed := .lines (ls ++ []), linesRead, pending } : Reader) = _
    rw [List.append_nil]
  | broken why => rfl

variable {r r' : Reader} {j j' : Journal} {time : Int}

theorem fill_extend {c : Command} (h : r.fill j = (.ok (), r', j')) (hc : r'.pending = some c)
    (more : List (Option String)) : (r.extend more).fill j = (.ok (), r'.extend more, j') := by
  obtain ⟨feed, linesRead, pending⟩ := r
  cases pending with
  | some c' =>
    cases h
    rfl
  | none =>
    cases feed with
    | broken why => cases h
    | lines ls =>
      simp only [fill] at h
      cases hfound : (scan linesRead j ls).found with
      | error e =>
        rw [hfound] at h
        cases h
      | ok found =>
        rw [hfound] at h
        cases h
        obtain rfl : found = some c := hc
        simp only [fill, extend, Feed.extend, scan_append_of_found hfound, hfound]

/-- The first line that is not text is the first that a reader cannot pass. -/
theorem fill_extend_unreadable (h : r.fill j = (.ok (), r', j')) (hnone : r'.pending = none)
    (rest : List (Option String)) :
    ∃ e r'', (r.extend (none :: rest)).fill j = (.error e, r'', j') := by
  obtain ⟨feed, linesRead, pending⟩ := r
  cases pending with
  | some c =>
    cases h
    cases hnone
  | none =>
    cases feed with
    | broken why => cases h
    | lines ls =>
      simp only [fill] at h
      cases hfound : (scan linesRead j ls).found with
      | error e =>
        rw [hfound] at h
        cases h
      | ok found =>
        rw [hfound] at h
        cases h
        obtain rfl : found = none := hnone
        refine ⟨.reading ((scan linesRead j ls).linesRead + 1) .notUtf8,
          ⟨.lines rest, (scan linesRead j ls).linesRead, none⟩, ?_⟩
        simp only [fill, extend, Feed.extend, scan_append_of_none hfound, scan]

/-- As long as a script is not over, lines behind it make no difference. -/
theorem next_extend {u : Upcoming} (h : r.next time j = (.ok u, r', j')) (hu : u ≠ .endOfScript)
    (more : List (Option String)) :
    (r.extend more).next time j = (.ok u, r'.extend more, j') := by
  unfold next at h ⊢
  split at h
  · cases h
  · next r₁ j₁ hfill =>
    cases hc : r₁.pending with
    | none =>
      rw [hc] at h
      cases h
      exact absurd rfl hu
    | some c =>
      have hpending : (r₁.extend more).pending = some c := hc
      rw [hc] at h
      rw [fill_extend hfill hc]
      dsimp only at h ⊢
      rw [hpending]
      by_cases hdue : time < c.due
      · rw [if_pos hdue] at h
        cases h
        exact if_pos hdue
      · rw [if_neg hdue] at h
        cases h
        exact if_neg hdue

/-- Where a script would be over, a line that is not text is an error. -/
theorem next_extend_unreadable (h : r.next time j = (.ok .endOfScript, r', j'))
    (rest : List (Option String)) :
    ∃ e r'', (r.extend (none :: rest)).next time j = (.error e, r'', j') := by
  unfold next at h ⊢
  split at h
  · cases h
  · next r₁ j₁ hfill =>
    cases hc : r₁.pending with
    | none =>
      rw [hc] at h
      cases h
      obtain ⟨e, r'', herror⟩ := fill_extend_unreadable hfill hc rest
      exact ⟨e, r'', by rw [herror]⟩
    | some c =>
      rw [hc] at h
      dsimp only at h
      by_cases hdue : time < c.due
      · rw [if_pos hdue] at h
        cases h
      · rw [if_neg hdue] at h
        cases h

end Reader

/-! ## Text and the rest -/

def Item.command? : Item → Option Command
  | .command c => some c
  | .unreadable _ => none

/-- The commands of all lines, in order. -/
def commandsIn (ls : List (Option String)) : List Command := (queue 0 ls).filterMap Item.command?

/-- The lines in front of the first that is not text. -/
def readable (ls : List (Option String)) : List (Option String) := ls.takeWhile Option.isSome

/-- The first line that is not text and the lines behind it. -/
def beyond (ls : List (Option String)) : List (Option String) := ls.dropWhile Option.isSome

theorem readable_append_beyond (ls : List (Option String)) : readable ls ++ beyond ls = ls :=
  List.takeWhile_append_dropWhile

theorem isSome_of_mem_readable {ls : List (Option String)} :
    ∀ l ∈ readable ls, l.isSome = true :=
  List.all_eq_true.1 List.all_takeWhile

theorem exists_beyond_eq {ls : List (Option String)} (h : beyond ls ≠ []) :
    ∃ rest, beyond ls = none :: rest := by
  have hhead := List.head?_dropWhile_not Option.isSome ls
  cases hbeyond : beyond ls with
  | nil => exact absurd hbeyond h
  | cons l rest =>
    rw [show ls.dropWhile Option.isSome = l :: rest from hbeyond] at hhead
    cases l with
    | none => exact ⟨rest, rfl⟩
    | some raw => cases hhead

theorem beyond_eq_nil_iff {ls : List (Option String)} :
    beyond ls = [] ↔ ∀ l ∈ ls, l.isSome = true := by
  have hsplit := readable_append_beyond ls
  constructor
  · intro hnil
    rw [hnil, List.append_nil] at hsplit
    rw [← hsplit]
    exact isSome_of_mem_readable
  · intro htext
    cases hbeyond : beyond ls with
    | nil => rfl
    | cons l rest =>
      have hbehind : beyond ls ≠ [] := by simp [hbeyond]
      obtain ⟨rest', hfirst⟩ := exists_beyond_eq hbehind
      have hnone : none ∈ ls := by
        rw [← hsplit, hfirst]
        exact List.mem_append_right _ (List.mem_cons_self ..)
      exact absurd (htext none hnone) Bool.false_ne_true

theorem itemOf_some (n : Nat) (raw : String) :
    itemOf n (some raw) = ((itemOf n (some raw)).filterMap Item.command?).map .command := by
  simp only [itemOf]
  cases Line.parse (n + 1) raw <;> rfl

/-- Lines of text hold commands and nothing else. -/
theorem queue_eq_commands {ls : List (Option String)} (h : ∀ l ∈ ls, l.isSome = true) (n : Nat) :
    queue n ls = ((queue n ls).filterMap Item.command?).map .command := by
  induction ls generalizing n with
  | nil => rfl
  | cons l ls ih =>
    obtain ⟨hl, hls⟩ := List.forall_mem_cons.1 h
    obtain ⟨raw, rfl⟩ := Option.isSome_iff_exists.1 hl
    have hrest := ih hls (n + countText [some raw])
    simp only [queue, gather] at hrest ⊢
    rw [List.filterMap_append, List.map_append, ← itemOf_some, ← hrest]

theorem exists_commandsIn_append (xs ys : List (Option String)) :
    ∃ more, commandsIn (xs ++ ys) = commandsIn xs ++ more := by
  refine ⟨(gather itemOf (0 + countText xs) ys).filterMap Item.command?, ?_⟩
  rw [commandsIn, queue, gather_append, List.filterMap_append]
  rfl

/-- The number of a line that can only be skipped, since it holds neither a command nor nothing. -/
def faultOf (n : Nat) : Option String → List Nat
  | none => [n + 1]
  | some raw =>
    match Line.parse (n + 1) raw with
    | .malformed _ => [n + 1]
    | _ => []

/-- The numbers of the lines after line number `n` that can only be skipped. -/
def faults (n : Nat) (ls : List (Option String)) : List Nat := gather faultOf n ls

end DemoReel.Script

/-! ## Lines that the journal calls skipped -/

namespace DemoReel

/-- The line that was skipped. -/
def Event.skippedLine? : Event → Option Nat
  | .lineSkipped line _ _ => some line
  | _ => none

namespace Script

/-- The lines that a journal warns of as skipped, in order. -/
def skippedLines (j : Journal) : List Nat := j.toList.filterMap Event.skippedLine?

theorem skippedLines_push {e : Event} (h : e.skippedLine? = none) (j : Journal) :
    skippedLines (j.push e) = skippedLines j := by
  rw [skippedLines, Array.toList_push, List.filterMap_append, List.filterMap_cons_none h,
    List.filterMap_nil, List.append_nil, skippedLines]

theorem skippedLines_eq_warnings (j : Journal) :
    skippedLines j = (warnings j).filterMap Event.skippedLine? := by
  rw [warnings, List.filterMap_filter, skippedLines]
  refine congrArg (List.filterMap · j.toList) (funext fun e => ?_)
  cases e with
  | lineSkipped line why raw => rfl
  | _ => exact (ite_self none).symm

/-- Every fault of a line of text is worth a warning, and nothing else is. -/
theorem skippedLines_skips {ls : List (Option String)} (h : ∀ l ∈ ls, l.isSome = true) (n : Nat) :
    (skips n ls).filterMap Event.skippedLine? = faults n ls := by
  induction ls generalizing n with
  | nil => rfl
  | cons l ls ih =>
    obtain ⟨hl, hls⟩ := List.forall_mem_cons.1 h
    obtain ⟨raw, rfl⟩ := Option.isSome_iff_exists.1 hl
    have hline : (skipOf n (some raw)).filterMap Event.skippedLine? = faultOf n (some raw) := by
      simp only [skipOf, faultOf]
      cases Line.parse (n + 1) raw <;> rfl
    have hrest := ih hls (n + countText [some raw])
    simp only [skips, faults, gather] at hrest ⊢
    rw [List.filterMap_append, hline, hrest]

/-- A reader that has passed lines of text has warned of each fault in them. -/
theorem Reader.Passed.skippedLines_eq {r r' : Reader} {j j' : Journal}
    {read : List (Option String)} (h : Passed r j read r' j')
    (hread : ∀ l ∈ read, l.isSome = true) :
    skippedLines j' = skippedLines j ++ faults r.linesRead read := by
  obtain ⟨rest, -, -, -, hwarnings⟩ := h
  rw [skippedLines_eq_warnings, hwarnings, List.filterMap_append, skippedLines_skips hread,
    ← skippedLines_eq_warnings]

/-- The reader has passed some of the lines, and since the journal was `j`, it has come to warn of
each fault in them and of nothing else. -/
def Reader.Reports (ls : List (Option String)) (j : Journal) (r : Reader) (j' : Journal) : Prop :=
  ∃ read rest, ls = read ++ rest ∧ r.feed = .lines rest ∧ r.linesRead = countText read ∧
    skippedLines j' = skippedLines j ++ faults 0 read

namespace Reader.Reports

variable {ls : List (Option String)} {j j' : Journal} {r : Reader}

theorem ofLines (ls : List (Option String)) (j : Journal) : (ofLines ls).Reports ls j j :=
  ⟨[], ls, rfl, rfl, rfl, (List.append_nil _).symm⟩

theorem next (h : r.Reports ls j j') (htext : ∀ l ∈ ls, l.isSome = true) {time : Int}
    {u : Except ScriptError Upcoming} {r' : Reader} {j'' : Journal}
    (hnext : r.next time j' = (u, r', j'')) : r'.Reports ls j j'' := by
  obtain ⟨read, rest, rfl, hfeed, hcount, hskipped⟩ := h
  have hholds : r.Holds (r.pending.toList.map .command ++ queue r.linesRead rest) :=
    ⟨rest, hfeed, rfl⟩
  obtain ⟨r₁, j₁, read', heq, -, hpassed⟩ := hholds.next time j'
  rw [heq] at hnext
  cases hnext
  have ⟨rest', hfeed', hfeed'', hcount', _⟩ := hpassed
  have hrest : rest = read' ++ rest' := Feed.lines.inj (hfeed.symm.trans hfeed')
  have hread' : ∀ l ∈ read', l.isSome = true := fun l hl =>
    htext l (by rw [hrest]; simp [hl])
  refine ⟨read ++ read', rest', ?_, hfeed'', ?_, ?_⟩
  · rw [hrest, List.append_assoc]
  · rw [hcount', hcount, countText_append]
  · rw [hpassed.skippedLines_eq hread', hskipped, hcount, List.append_assoc, faults, faults, faults,
      gather_append, Nat.zero_add]

theorem congr_journal (h : r.Reports ls j j') {j'' : Journal}
    (hj : skippedLines j'' = skippedLines j') : r.Reports ls j j'' := by
  obtain ⟨read, rest, hls, hfeed, hcount, hskipped⟩ := h
  exact ⟨read, rest, hls, hfeed, hcount, hj.trans hskipped⟩

theorem extend (h : r.Reports ls j j') (more : List (Option String)) :
    (r.extend more).Reports (ls ++ more) j j' := by
  obtain ⟨read, rest, rfl, hfeed, hcount, hskipped⟩ := h
  refine ⟨read, rest ++ more, List.append_assoc .., ?_, hcount, hskipped⟩
  rw [Reader.extend, hfeed]
  rfl

end Reader.Reports

end Script

end DemoReel
