import DemoReel.Script.Reader

/-!
# A script as a queue

What a script holds, as one queue that could be made of its lines before anybody asks for a command.
Main statements: a reader answers every sequence of requests as that queue does, and warns once of
each malformed line that it has passed (`answers_eq_queue`); a line puts the same things into the
queue wherever it stands (`contents_queue_append`).
-/

namespace DemoReel.Script

/-! ## What lines hold -/

/-- What a reader comes upon. -/
inductive Item where
  | command (c : Command)
  /-- A line that is not text, with the number that its error names. -/
  | unreadable (line : Nat)
  deriving DecidableEq, Repr

/-- The item without the number of its line. -/
def Item.content : Item → Option (Int × Keyword × List String)
  | .command c => some (c.due, c.keyword, c.args)
  | .unreadable _ => none

/-- The item that a line holds, if it holds one; `n` lines of text stand before it. -/
def itemOf (n : Nat) : Option String → List Item
  | none => [.unreadable (n + 1)]
  | some raw =>
    match Line.parse (n + 1) raw with
    | .command c => [.command c]
    | _ => []

/-- The warning that a line is worth. -/
def skipOf (n : Nat) : Option String → List Event
  | none => []
  | some raw =>
    match Line.parse (n + 1) raw with
    | .malformed why => [.lineSkipped (n + 1) why raw]
    | _ => []

/-- Lines that are not text are not counted. -/
def countText (ls : List (Option String)) : Nat := ls.countP Option.isSome

/-- What `f` finds in each of the lines after line number `n`, in order. -/
def gather {α : Type} (f : Nat → Option String → List α) (n : Nat) : List (Option String) → List α
  | [] => []
  | l :: ls => f n l ++ gather f (n + countText [l]) ls

/-- The queue of the lines after line number `n`. -/
def queue (n : Nat) (ls : List (Option String)) : List Item := gather itemOf n ls

/-- The warnings that the lines after line number `n` are worth. -/
def skips (n : Nat) (ls : List (Option String)) : List Event := gather skipOf n ls

theorem countText_append (xs ys : List (Option String)) :
    countText (xs ++ ys) = countText xs + countText ys := List.countP_append

theorem gather_append {α : Type} (f : Nat → Option String → List α) (n : Nat)
    (xs ys : List (Option String)) :
    gather f n (xs ++ ys) = gather f n xs ++ gather f (n + countText xs) ys := by
  induction xs generalizing n with
  | nil => rfl
  | cons x xs ih =>
    have hcount : n + countText [x] + countText xs = n + countText (x :: xs) := by
      rw [Nat.add_assoc, ← countText_append]; rfl
    simp only [List.cons_append, gather, ih, hcount, List.append_assoc]

/-- The same line with another number. -/
def Line.numbered (n : Nat) : Line → Line
  | .command c => .command { c with line := n }
  | l => l

/-- The number of a line is in the command that it holds, and nowhere else. -/
theorem Line.parse_eq_numbered (n m : Nat) (raw : String) :
    Line.parse n raw = (Line.parse m raw).numbered n := by
  unfold Line.parse
  cases (tokens (uncommented raw.toList)).map String.ofList with
  | nil => rfl
  | cons stamp rest =>
    simp only [Line.ofTokens]
    cases timestamp? stamp with
    | none => rfl
    | some due =>
      cases rest with
      | nil => rfl
      | cons word args =>
        cases hk : Keyword.ofText? word with
        | none => simp [hk, Line.numbered]
        | some keyword =>
          simp only [hk]
          split <;> rfl

theorem content_itemOf (n m : Nat) (l : Option String) :
    (itemOf n l).map Item.content = (itemOf m l).map Item.content := by
  cases l with
  | none => rfl
  | some raw =>
    simp only [itemOf, Line.parse_eq_numbered (n + 1) (m + 1) raw]
    cases Line.parse (m + 1) raw <;> rfl

theorem contents_queue (n m : Nat) (ls : List (Option String)) :
    (queue n ls).map Item.content = (queue m ls).map Item.content := by
  induction ls generalizing n m with
  | nil => rfl
  | cons l ls ih =>
    simp only [queue, gather, List.map_append] at ih ⊢
    rw [content_itemOf n m, ih (n + countText [l]) (m + countText [l])]

/-! ## The queue and its answers -/

namespace Queue

/-- When the first command is due. An item without a command is taken out and is an error. -/
def peek : List Item → Except ScriptError (Option Int) × List Item
  | [] => (.ok none, [])
  | .unreadable n :: q => (.error (.reading n .notUtf8), q)
  | .command c :: q => (.ok (some c.due), .command c :: q)

/-- Takes the first command out if it is due at `time`. -/
def next (time : Int) : List Item → Except ScriptError Upcoming × List Item
  | [] => (.ok .endOfScript, [])
  | .unreadable n :: q => (.error (.reading n .notUtf8), q)
  | .command c :: q =>
    if c.due ≤ time then (.ok (.command c), q) else (.ok .notYet, .command c :: q)

/-- What a search for the next command finds. -/
def front : List Item → Except ScriptError (Option Command)
  | [] => .ok none
  | .unreadable n :: _ => .error (.reading n .notUtf8)
  | .command c :: _ => .ok (some c)

end Queue

/-- A request to a reader. -/
inductive Request where
  | peek
  | next (time : Int)
  deriving DecidableEq, Repr

/-- What a request is answered with if no error stands in the way. -/
inductive Answer where
  | due (time? : Option Int)
  | upcoming (u : Upcoming)
  deriving DecidableEq, Repr

/-- What a queue answers, and what is left of it. -/
def Queue.answer (q : List Item) : Request → Except ScriptError Answer × List Item
  | .peek => ((peek q).1.map .due, (peek q).2)
  | .next time => ((next time q).1.map .upcoming, (next time q).2)

/-- What a queue answers to several requests in turn. -/
def Queue.answers : List Request → List Item → List (Except ScriptError Answer) × List Item
  | [], q => ([], q)
  | r :: rs, q =>
    let (a, q) := Queue.answer q r
    let (as, q) := Queue.answers rs q
    (a :: as, q)

namespace Reader

/-- What a reader answers, and the reader and the journal afterwards. -/
def answer (r : Reader) (j : Journal) : Request → Except ScriptError Answer × Reader × Journal
  | .peek =>
    let (a, r, j) := r.peek j
    (a.map .due, r, j)
  | .next time =>
    let (a, r, j) := r.next time j
    (a.map .upcoming, r, j)

/-- What a reader answers to several requests in turn. -/
def answers :
    List Request → Reader → Journal → List (Except ScriptError Answer) × Reader × Journal
  | [], r, j => ([], r, j)
  | q :: qs, r, j =>
    let (a, r, j) := r.answer j q
    let (as, r, j) := answers qs r j
    (a :: as, r, j)

end Reader

/-! ## Searching the lines -/

/-- The warnings in a journal, in order. -/
def warnings (j : Journal) : List Event := j.toList.filter (·.level = .warn)

@[simp] theorem warnings_push_skipped (j : Journal) (n : Nat) (why : LineFault) (raw : String) :
    warnings (j.push (.lineSkipped n why raw)) = warnings j ++ [.lineSkipped n why raw] := by
  simp [warnings, List.filter_append, Event.level]

@[simp] theorem warnings_push_read (j : Journal) (c : Command) :
    warnings (j.push (.commandRead c)) = warnings j := by
  simp [warnings, List.filter_append, Event.level]

theorem found_scan (n : Nat) (j : Journal) (ls : List (Option String)) :
    (scan n j ls).found = Queue.front (queue n ls) := by
  fun_induction scan n j ls with
  | case1 => rfl
  | case2 => rfl
  | case3 n j raw rest hp ih => simpa [queue, gather, itemOf, hp, countText] using ih
  | case4 n j raw rest why hp ih => simpa [queue, gather, itemOf, hp, countText] using ih
  | case5 n j raw rest c hp => simp [queue, gather, itemOf, hp, Queue.front]

theorem queue_scan (n : Nat) (j : Journal) (ls : List (Option String)) :
    queue (scan n j ls).linesRead (scan n j ls).rest = (queue n ls).tail := by
  fun_induction scan n j ls with
  | case1 => rfl
  | case2 => rfl
  | case3 n j raw rest hp ih => simpa [queue, gather, itemOf, hp, countText] using ih
  | case4 n j raw rest why hp ih => simpa [queue, gather, itemOf, hp, countText] using ih
  | case5 n j raw rest c hp => simp [queue, gather, itemOf, hp, countText]

/-- A search passes some lines from the front, counts those that are text, and warns of the
malformed ones. -/
theorem passed_scan (n : Nat) (j : Journal) (ls : List (Option String)) :
    ∃ read, ls = read ++ (scan n j ls).rest ∧
      (scan n j ls).linesRead = n + countText read ∧
      warnings (scan n j ls).journal = warnings j ++ skips n read := by
  fun_induction scan n j ls with
  | case1 => exact ⟨[], rfl, rfl, by simp [skips, gather]⟩
  | case2 n j rest => exact ⟨[none], rfl, rfl, by simp [skips, gather, skipOf]⟩
  | case3 n j raw rest hp ih =>
    obtain ⟨read, hls, hn, hw⟩ := ih
    refine ⟨some raw :: read, by rw [List.cons_append, ← hls], ?_, ?_⟩
    · rw [hn]; simp [countText]; omega
    · simpa [skips, gather, skipOf, hp, countText] using hw
  | case4 n j raw rest why hp ih =>
    obtain ⟨read, hls, hn, hw⟩ := ih
    refine ⟨some raw :: read, by rw [List.cons_append, ← hls], ?_, ?_⟩
    · rw [hn]; simp [countText]; omega
    · simpa [skips, gather, skipOf, hp, countText] using hw
  | case5 n j raw rest c hp =>
    exact ⟨[some raw], rfl, rfl, by simp [skips, gather, skipOf, hp]⟩

/-! ## Readers -/

namespace Reader

/-- The reader still has the items of a queue before it: first the command that it keeps, if it
keeps one, and then what its lines hold. -/
def Holds (r : Reader) (q : List Item) : Prop :=
  ∃ ls, r.feed = .lines ls ∧ r.pending.toList.map .command ++ queue r.linesRead ls = q

/-- Between two moments the reader has passed the lines `read` and warned of the malformed ones. -/
def Passed (r : Reader) (j : Journal) (read : List (Option String)) (r' : Reader) (j' : Journal) :
    Prop :=
  ∃ rest, r.feed = .lines (read ++ rest) ∧ r'.feed = .lines rest ∧
    r'.linesRead = r.linesRead + countText read ∧
    warnings j' = warnings j ++ skips r.linesRead read

theorem Passed.refl {r : Reader} {ls : List (Option String)} (h : r.feed = .lines ls)
    (j : Journal) : Passed r j [] r j :=
  ⟨ls, h, h, rfl, by simp [skips, gather]⟩

theorem Passed.trans {r₁ r₂ r₃ : Reader} {j₁ j₂ j₃ : Journal} {xs ys : List (Option String)}
    (h : Passed r₁ j₁ xs r₂ j₂) (h' : Passed r₂ j₂ ys r₃ j₃) : Passed r₁ j₁ (xs ++ ys) r₃ j₃ := by
  obtain ⟨rest, hf₁, hf₂, hn, hw⟩ := h
  obtain ⟨rest', hf₂', hf₃, hn', hw'⟩ := h'
  have hrest : rest = ys ++ rest' := by simpa [hf₂] using hf₂'
  refine ⟨rest', ?_, hf₃, ?_, ?_⟩
  · rw [hf₁, hrest, List.append_assoc]
  · rw [hn', hn, countText_append, Nat.add_assoc]
  · rw [hw', hw, hn]
    simp only [skips, gather_append, List.append_assoc]

theorem holds_ofLines (ls : List (Option String)) : (ofLines ls).Holds (queue 0 ls) :=
  ⟨ls, rfl, rfl⟩

/-- Filling the lookahead finds the first item. An item without a command is lost by that; a command
stays in the queue, now as the one that the reader keeps. -/
theorem Holds.fill {r : Reader} {q : List Item} (h : r.Holds q) (j : Journal) :
    ∃ r' j' read, r.fill j = ((Queue.front q).map fun _ => (), r', j') ∧
      r'.pending = (Queue.front q).toOption.join ∧ r'.Holds (Queue.peek q).2 ∧
      Passed r j read r' j' := by
  obtain ⟨ls, hfeed, rfl⟩ := h
  unfold Reader.fill
  cases hp : r.pending with
  | some c => exact ⟨r, j, [], rfl, hp, ⟨ls, hfeed, by simp [hp, Queue.peek]⟩, .refl hfeed j⟩
  | none =>
    have hfound := found_scan r.linesRead j ls
    have hqueue := queue_scan r.linesRead j ls
    obtain ⟨read, hls, hn, hw⟩ := passed_scan r.linesRead j ls
    have hread : r.feed = .lines (read ++ (scan r.linesRead j ls).rest) := hls ▸ hfeed
    simp only [hfeed, Option.toList_none, List.map_nil, List.nil_append]
    cases hq : queue r.linesRead ls with
    | nil =>
      rw [hq] at hfound hqueue
      simp only [hfound, Queue.front]
      exact ⟨_, _, read, rfl, rfl, ⟨_, rfl, hqueue⟩, _, hread, rfl, hn, hw⟩
    | cons i q =>
      rw [hq] at hfound hqueue
      cases i with
      | unreadable n =>
        simp only [hfound, Queue.front]
        exact ⟨_, _, read, rfl, rfl, ⟨_, rfl, hqueue⟩, _, hread, rfl, hn, hw⟩
      | command c =>
        simp only [hfound, Queue.front]
        exact ⟨_, _, read, rfl, rfl, ⟨_, rfl, by simpa [Queue.peek] using hqueue⟩,
          _, hread, rfl, hn, hw⟩

theorem Holds.peek {r : Reader} {q : List Item} (h : r.Holds q) (j : Journal) :
    ∃ r' j' read, r.peek j = ((Queue.peek q).1, r', j') ∧ r'.Holds (Queue.peek q).2 ∧
      Passed r j read r' j' := by
  obtain ⟨r', j', read, hfill, hpending, hholds, hpassed⟩ := h.fill j
  refine ⟨r', j', read, ?_, hholds, hpassed⟩
  unfold Reader.peek
  rw [hfill]
  cases q with
  | nil => simp only [Queue.front, Except.map, hpending]; rfl
  | cons i q =>
    cases i with
    | unreadable n => rfl
    | command c => simp only [Queue.front, Except.map, hpending]; rfl

theorem Holds.next {r : Reader} {q : List Item} (h : r.Holds q) (time : Int) (j : Journal) :
    ∃ r' j' read, r.next time j = ((Queue.next time q).1, r', j') ∧
      r'.Holds (Queue.next time q).2 ∧ Passed r j read r' j' := by
  obtain ⟨r', j', read, hfill, hpending, hholds, hpassed⟩ := h.fill j
  unfold Reader.next
  rw [hfill]
  cases q with
  | nil =>
    simp only [Queue.front, Except.map, hpending]
    exact ⟨r', j', read, rfl, hholds, hpassed⟩
  | cons i q =>
    cases i with
    | unreadable n => exact ⟨r', j', read, rfl, hholds, hpassed⟩
    | command c =>
      have hkept : r'.pending = some c := hpending
      simp only [Queue.front, Except.map, hkept, Queue.next]
      by_cases hdue : c.due ≤ time
      · -- The command is handed out: only the lines are left of the queue.
        obtain ⟨ls, hfeed, hq⟩ := hholds
        have hrest : queue r'.linesRead ls = q := by simpa [hkept, Queue.peek] using hq
        rw [if_neg (Int.not_lt.2 hdue), if_pos hdue]
        exact ⟨_, j', read, rfl, ⟨ls, hfeed, hrest⟩, hpassed⟩
      · rw [if_pos (Int.not_le.1 hdue), if_neg hdue]
        exact ⟨r', j', read, rfl, hholds, hpassed⟩

theorem Holds.answer {r : Reader} {q : List Item} (h : r.Holds q) (j : Journal)
    (request : Request) :
    ∃ r' j' read, r.answer j request = ((Queue.answer q request).1, r', j') ∧
      r'.Holds (Queue.answer q request).2 ∧ Passed r j read r' j' := by
  cases request with
  | peek =>
    obtain ⟨r', j', read, heq, hholds, hpassed⟩ := h.peek j
    exact ⟨r', j', read, by simp [Reader.answer, heq, Queue.answer], hholds, hpassed⟩
  | next time =>
    obtain ⟨r', j', read, heq, hholds, hpassed⟩ := h.next time j
    exact ⟨r', j', read, by simp [Reader.answer, heq, Queue.answer], hholds, hpassed⟩

theorem Holds.answers {r : Reader} {q : List Item} (h : r.Holds q) (requests : List Request)
    (j : Journal) :
    ∃ r' j' read, r.answers requests j = ((Queue.answers requests q).1, r', j') ∧
      r'.Holds (Queue.answers requests q).2 ∧ Passed r j read r' j' := by
  induction requests generalizing r q j with
  | nil =>
    obtain ⟨ls, hfeed, hq⟩ := h
    exact ⟨r, j, [], rfl, ⟨ls, hfeed, hq⟩, .refl hfeed j⟩
  | cons request requests ih =>
    obtain ⟨r₁, j₁, read₁, heq₁, hholds₁, hpassed₁⟩ := h.answer j request
    obtain ⟨r₂, j₂, read₂, heq₂, hholds₂, hpassed₂⟩ := ih hholds₁ j₁
    refine ⟨r₂, j₂, read₁ ++ read₂, ?_, hholds₂, hpassed₁.trans hpassed₂⟩
    simp only [Reader.answers, heq₁, heq₂, Queue.answers]

end Reader

/-! ## Scripts that are text -/

def Line.command? : Line → Option Command
  | .command c => some c
  | _ => none

/-- The commands of a text in the order of its lines, which are counted from one. -/
def commandsOf (content : String) : List Command :=
  ((Text.lines content).zipIdx 1).filterMap fun (raw, n) => (Line.parse n raw).command?

theorem due_nonneg_of_mem_commandsOf {content : String} {c : Command}
    (h : c ∈ commandsOf content) : 0 ≤ c.due := by
  obtain ⟨⟨raw, n⟩, -, hc⟩ := List.mem_filterMap.1 h
  cases hline : Line.parse n raw with
  | blank => simp [hline, Line.command?] at hc
  | malformed why => simp [hline, Line.command?] at hc
  | command c' =>
    simp only [hline, Line.command?, Option.some.injEq] at hc
    subst hc
    exact Line.due_nonneg hline

theorem queue_text (n : Nat) (ls : List String) :
    queue n (ls.map some) =
      ((ls.zipIdx (n + 1)).filterMap fun (raw, n) => (Line.parse n raw).command?).map .command := by
  induction ls generalizing n with
  | nil => rfl
  | cons raw ls ih =>
    have hrest : queue n ((raw :: ls).map some) =
        itemOf n (some raw) ++ queue (n + 1) (ls.map some) := rfl
    rw [hrest, ih (n + 1), List.zipIdx_cons, itemOf]
    cases h : Line.parse (n + 1) raw with
    | blank => simp [h, Line.command?]
    | malformed why => simp [h, Line.command?]
    | command c => simp [h, Line.command?]

/-- A text holds commands and nothing that cannot be read. -/
theorem Reader.holds_text (content : String) :
    (Reader.ofLines ((Text.lines content).map some)).Holds ((commandsOf content).map .command) :=
  ⟨_, rfl, queue_text 0 _⟩

/-- A line holds the same wherever it stands, so that taking out a line takes out what it holds and
nothing else. -/
theorem contents_queue_append (n : Nat) (front back : List (Option String)) :
    (queue n (front ++ back)).map Item.content =
      (queue n front).map Item.content ++ (queue n back).map Item.content := by
  simp only [queue, gather_append, List.map_append]
  exact congrArg _ (contents_queue _ _ back)

/-- A reader of bytes answers any requests as the queue of their physical lines does. The lines that
it has passed by then are warned of in their order, once for each malformed one, and a line has no
bearing on what the others hold. -/
theorem answers_eq_queue (bytes : List UInt8) (requests : List Request) (j : Journal) :
    let pieces := Text.cutAfter (· == 10) bytes
    let lines := pieces.map Text.decode?
    Text.IsCut (· == 10) bytes pieces ∧
    (∃ r j' read rest,
      (Reader.ofLines (Text.decodedLines bytes)).answers requests j =
        ((Queue.answers requests (queue 0 lines)).1, r, j') ∧
      r.Holds (Queue.answers requests (queue 0 lines)).2 ∧
      lines = read ++ rest ∧ r.feed = .lines rest ∧ warnings j' = warnings j ++ skips 0 read) ∧
    ∀ front l back, lines = front ++ l :: back →
      (queue 0 lines).map Item.content =
        (queue 0 front).map Item.content ++ (itemOf 0 l).map Item.content ++
          (queue 0 back).map Item.content ∧
      (queue 0 (front ++ back)).map Item.content =
        (queue 0 front).map Item.content ++ (queue 0 back).map Item.content := by
  intro pieces lines
  refine ⟨Text.isCut_cutAfter _ bytes, ?_, ?_⟩
  · obtain ⟨r, j', read, heq, hholds, rest, hfeed, hrest, -, hwarnings⟩ :=
      (Reader.holds_ofLines lines).answers requests j
    exact ⟨r, j', read, rest, heq, hholds, Feed.lines.inj hfeed, hrest, hwarnings⟩
  · intro front l back hlines
    refine ⟨?_, contents_queue_append 0 front back⟩
    have hl : (queue 0 [l]).map Item.content = (itemOf 0 l).map Item.content := by
      simp [queue, gather]
    rw [hlines, List.append_cons, contents_queue_append, contents_queue_append, hl]

end DemoReel.Script
