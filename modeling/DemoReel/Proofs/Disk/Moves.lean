import DemoReel.Disk
import DemoReel.Proofs.Text.Pieces

/-!
# The moves of paths

A path is a list of moves from one directory to another. Main statements: the moves to a name that
is seen from a directory are those to the directory and those of the name (`Path.moves_join`), a
path goes on from its parent by a single move (`Path.exists_moves_of_parent?`), and the text of a
location goes down name by name (`Path.moves_ofLocation`).
-/

namespace DemoReel

/-! ## The moves of a path -/

namespace Path

/-- The moves that a text stands for. -/
def movesOf (cs : List Char) : List Move := (Text.splitOn '/' cs).filterMap moveOf?

theorem moves_ofList (cs : List Char) : (⟨String.ofList cs⟩ : Path).moves = movesOf cs := by
  rw [moves, String.toList_ofList, movesOf]

theorem isAbsolute_ofList (cs : List Char) :
    (⟨String.ofList cs⟩ : Path).isAbsolute = (cs.head? == some '/') := by
  rw [isAbsolute, String.toList_ofList]

theorem movesOf_append_slash (xs ys : List Char) :
    movesOf (xs ++ '/' :: ys) = movesOf xs ++ movesOf ys := by
  rw [movesOf, Text.splitOn_append, List.filterMap_append]
  rfl

/-- The text of a relative path that is seen from a directory. -/
theorem join_cases {p q : Path} (h : q.isAbsolute = false) :
    (p.text.toList = [] ∧ (p.join q).text.toList = q.text.toList) ∨
      ∃ front, (p.text.toList = front ++ ['/'] ∨ p.text.toList = front ∧ front ≠ []) ∧
        (p.join q).text.toList = front ++ '/' :: q.text.toList := by
  by_cases hempty : p.text.toList = []
  · have hisEmpty : p.text.isEmpty = true := by simpa using hempty
    left
    simp [join, h, hisEmpty, hempty]
  · right
    by_cases hlast : p.text.toList.getLast? = some '/'
    · obtain ⟨front, hfront⟩ := List.getLast?_eq_some_iff.1 hlast
      refine ⟨front, .inl hfront, ?_⟩
      simp [join, h, hfront]
    · have hisEmpty : p.text.isEmpty = false := by simpa using hempty
      refine ⟨p.text.toList, .inr ⟨rfl, hempty⟩, ?_⟩
      simp [join, h, hlast, hisEmpty]

theorem isAbsolute_join {p q : Path} (h : q.isAbsolute = false) :
    (p.join q).isAbsolute = p.isAbsolute := by
  unfold isAbsolute at h ⊢
  rcases join_cases h with ⟨hp, hjoin⟩ | ⟨front, hp, hjoin⟩
  · rw [hjoin, hp, h]
    rfl
  · rw [hjoin]
    rcases hp with hp | ⟨hp, hne⟩
    · rw [hp]
      cases front <;> rfl
    · rw [hp]
      cases front with
      | nil => exact absurd rfl hne
      | cons c cs => rfl

/-- What is seen from a directory is walked to from there. -/
theorem moves_join {p q : Path} (h : q.isAbsolute = false) :
    (p.join q).moves = p.moves ++ q.moves := by
  show movesOf (p.join q).text.toList = movesOf p.text.toList ++ movesOf q.text.toList
  rcases join_cases h with ⟨hp, hjoin⟩ | ⟨front, hp | ⟨hp, -⟩, hjoin⟩
  · rw [hjoin, hp]
    rfl
  · have hidle : movesOf [] = [] := rfl
    rw [hjoin, hp, movesOf_append_slash, movesOf_append_slash, hidle, List.append_nil]
  · rw [hjoin, hp, movesOf_append_slash]

/-! ## The moves of a parent -/

theorem movesOf_join {pieces : List (List Char)} (h : ∀ piece ∈ pieces, '/' ∉ piece) :
    movesOf (pieces.intersperse ['/']).flatten = pieces.filterMap moveOf? := by
  cases pieces with
  | nil => rfl
  | cons piece pieces => rw [movesOf, Text.splitOn_join (by simp) h]

theorem eq_stay_of_isIdle {pieces : List (List Char)} (h : ∀ piece ∈ pieces, isIdle piece = true) :
    ∀ m ∈ pieces.filterMap moveOf?, m = .stay := by
  intro m hm
  obtain ⟨piece, hpiece, hmove⟩ := List.mem_filterMap.1 hm
  have hidle := h piece hpiece
  unfold isIdle at hidle
  rcases Bool.or_eq_true_iff.1 hidle with heq | heq
  · rw [eq_of_beq heq] at hmove
    cases hmove
  · rw [eq_of_beq heq] at hmove
    exact (Option.some.inj hmove).symm

theorem exists_moveOf?_of_not_isIdle {piece : List Char} (h : isIdle piece = false) :
    ∃ m, moveOf? piece = some m := by
  unfold isIdle at h
  obtain ⟨hnil, hdot⟩ := Bool.or_eq_false_iff.1 h
  unfold moveOf?
  rw [if_neg (by simpa using hnil), if_neg (by simpa using hdot)]
  split
  · exact ⟨.up, rfl⟩
  · exact ⟨.into (String.ofList piece), rfl⟩

/-- What is left of a list when the idle pieces at its end are taken off. -/
theorem exists_idle_end (pieces : List (List Char)) :
    ∃ back, pieces = (pieces.reverse.dropWhile isIdle).reverse ++ back ∧
      ∀ piece ∈ back, isIdle piece = true := by
  refine ⟨(pieces.reverse.takeWhile isIdle).reverse, ?_, ?_⟩
  · rw [← List.reverse_append, List.takeWhile_append_dropWhile, List.reverse_reverse]
  · intro piece hpiece
    exact List.all_eq_true.1 List.all_takeWhile piece (List.mem_reverse.1 hpiece)

theorem isIdle_of_dropWhile {pieces : List (List Char)}
    (h : pieces.reverse.dropWhile isIdle = []) : ∀ piece ∈ pieces, isIdle piece = true := by
  obtain ⟨back, hpieces, hback⟩ := exists_idle_end pieces
  rw [h, List.reverse_nil, List.nil_append] at hpieces
  exact hpieces ▸ hback

/-- The moves of the last component, of the idle pieces around it and of what comes before. -/
theorem exists_last_move {pieces rest : List (List Char)} {last : List Char}
    (h : pieces.reverse.dropWhile isIdle = last :: rest) :
    ∃ front m back, pieces.filterMap moveOf? =
        (rest.dropWhile isIdle).reverse.filterMap moveOf? ++ front ++ m :: back ∧
      (∀ x ∈ front, x = .stay) ∧ ∀ x ∈ back, x = .stay := by
  obtain ⟨back, hpieces, hback⟩ := exists_idle_end pieces
  obtain ⟨front, hrest, hfront⟩ := exists_idle_end rest.reverse
  rw [List.reverse_reverse] at hrest
  have hlast : isIdle last = false := by
    have hne : pieces.reverse.dropWhile isIdle ≠ [] := by simp [h]
    have hhead := List.head_dropWhile_not isIdle hne
    simpa [h] using hhead
  obtain ⟨m, hm⟩ := exists_moveOf?_of_not_isIdle hlast
  refine ⟨front.filterMap moveOf?, m, back.filterMap moveOf?, ?_, eq_stay_of_isIdle hfront,
    eq_stay_of_isIdle hback⟩
  rw [h, List.reverse_cons, hrest] at hpieces
  rw [hpieces]
  simp [List.filterMap_append, hm]

/-- Where a text is divided before its last component is taken off. -/
theorem splitLead_cases (cs : List Char) :
    (∃ rest, cs = '/' :: rest ∧ splitLead cs = (['/'], rest)) ∨
      (cs = ['.'] ∧ splitLead cs = (['.'], [])) ∨
      (∃ rest, cs = '.' :: '/' :: rest ∧ splitLead cs = (['.'], '/' :: rest)) ∨
      cs.head? ≠ some '/' ∧ splitLead cs = ([], cs) := by
  unfold splitLead
  split
  · next rest => exact .inl ⟨rest, rfl, rfl⟩
  · exact .inr (.inl ⟨rfl, rfl⟩)
  · next rest => exact .inr (.inr (.inl ⟨rest, rfl, rfl⟩))
  · next hslash _ _ =>
    refine .inr (.inr (.inr ⟨?_, rfl⟩))
    intro hhead
    obtain ⟨rest, rfl⟩ := List.head?_eq_some_iff.1 hhead
    exact hslash rest rfl

/-- The kept pieces are the first ones. -/
theorem prefix_of_kept {pieces rest : List (List Char)} {last : List Char}
    (h : pieces.reverse.dropWhile isIdle = last :: rest) :
    (rest.dropWhile isIdle).reverse <+: pieces := by
  obtain ⟨back, hpieces, -⟩ := exists_idle_end pieces
  obtain ⟨front, hrest, -⟩ := exists_idle_end rest.reverse
  rw [List.reverse_reverse] at hrest
  rw [h, List.reverse_cons, hrest] at hpieces
  exact ⟨front ++ [last] ++ back, by rw [hpieces]; simp⟩

theorem movesOf_kept {body last : List Char} {rest : List (List Char)}
    (h : (Text.splitOn '/' body).reverse.dropWhile isIdle = last :: rest) :
    movesOf ((rest.dropWhile isIdle).reverse.intersperse ['/']).flatten =
      (rest.dropWhile isIdle).reverse.filterMap moveOf? :=
  movesOf_join fun _ hpiece => Text.not_mem_of_mem_splitOn ((prefix_of_kept h).subset hpiece)

/-- Behind a dot, the first piece is empty. -/
theorem movesOf_dot_kept {pieces : List (List Char)} {body : List Char}
    (h : pieces <+: Text.splitOn '/' ('/' :: body)) :
    movesOf ('.' :: (pieces.intersperse ['/']).flatten) = .stay :: pieces.filterMap moveOf? := by
  have hsplit : Text.splitOn '/' ('/' :: body) = [] :: Text.splitOn '/' body :=
    Text.splitOn_append '/' [] body
  rw [hsplit] at h
  cases pieces with
  | nil => rfl
  | cons piece pieces =>
    obtain ⟨rfl, hpieces⟩ := List.cons_prefix_cons.1 h
    cases pieces with
    | nil => rfl
    | cons piece' pieces =>
      have hjoin : '.' :: (([] :: piece' :: pieces).intersperse ['/']).flatten =
          ['.'] ++ '/' :: ((piece' :: pieces).intersperse ['/']).flatten := by simp
      rw [hjoin, movesOf_append_slash, movesOf_join fun _ hpiece =>
        Text.not_mem_of_mem_splitOn (hpieces.subset hpiece)]
      rfl

/-- Pieces of a text that starts with no slash make none in front. -/
theorem head?_kept {pieces : List (List Char)} {c : Char} {cs : List Char} (hc : c ≠ '/')
    (h : pieces <+: Text.splitOn '/' (c :: cs)) :
    (pieces.intersperse ['/']).flatten.head? ≠ some '/' := by
  obtain ⟨piece, rest, hsplit⟩ := Text.exists_splitOn_cons hc cs
  rw [hsplit] at h
  cases pieces with
  | nil => simp
  | cons first pieces =>
    obtain ⟨rfl, -⟩ := List.cons_prefix_cons.1 h
    cases pieces <;> simpa using hc

/-- A path goes on from its parent by one move, and some that stay. -/
theorem exists_moves_of_parent? {p b : Path} (h : p.parent? = some b) :
    b.isAbsolute = p.isAbsolute ∧ ∃ front m back, p.moves = b.moves ++ front ++ m :: back ∧
      (∀ x ∈ front, x = .stay) ∧ ∀ x ∈ back, x = .stay := by
  obtain ⟨text⟩ := p
  show b.isAbsolute = (text.toList.head? == some '/') ∧ ∃ front m back,
    movesOf text.toList = b.moves ++ front ++ m :: back ∧ _
  unfold parent? at h
  rcases splitLead_cases text.toList with ⟨body, htext, hlead⟩ | ⟨htext, hlead⟩ |
    ⟨body, htext, hlead⟩ | ⟨hhead, hlead⟩
  · -- A root in front.
    simp only [hlead] at h
    split at h
    · next last rest hkept =>
      cases h
      obtain ⟨front, m, back, hmoves, hstay⟩ := exists_last_move hkept
      refine ⟨by rw [isAbsolute_ofList, htext]; rfl, front, m, back, ?_, hstay⟩
      have hroot : ∀ cs, movesOf ('/' :: cs) = movesOf cs := movesOf_append_slash []
      rw [htext, moves_ofList, List.singleton_append, hroot, hroot, movesOf_kept hkept, ← hmoves]
      rfl
    · simp at h
  · -- A dot alone.
    simp only [hlead] at h
    cases h
    rw [htext]
    exact ⟨rfl, [], .stay, [], rfl, by simp, by simp⟩
  · -- A dot in front.
    have hdot : ∀ cs, movesOf ('.' :: '/' :: cs) = .stay :: movesOf cs := movesOf_append_slash ['.']
    have hbody : (Text.splitOn '/' ('/' :: body)).filterMap moveOf? = movesOf body :=
      movesOf_append_slash [] body
    simp only [hlead] at h
    split at h
    · next last rest hkept =>
      cases h
      obtain ⟨front, m, back, hmoves, hstay⟩ := exists_last_move hkept
      refine ⟨by rw [isAbsolute_ofList, htext]; rfl, front, m, back, ?_, hstay⟩
      rw [moves_ofList, List.singleton_append, movesOf_dot_kept (prefix_of_kept hkept), htext, hdot,
        ← hbody, hmoves]
      rfl
    · next hidle =>
      cases h
      have hstay := eq_stay_of_isIdle (isIdle_of_dropWhile hidle)
      rw [hbody] at hstay
      rw [htext, hdot]
      exact ⟨rfl, [], .stay, movesOf body, rfl, by simp, hstay⟩
  · -- Neither of them.
    simp only [hlead] at h
    split at h
    · next last rest hkept =>
      cases h
      obtain ⟨front, m, back, hmoves, hstay⟩ := exists_last_move hkept
      have hslash :
          ((rest.dropWhile isIdle).reverse.intersperse ['/']).flatten.head? ≠ some '/' := by
        cases hcs : text.toList with
        | nil => simp [hcs, Text.splitOn, isIdle] at hkept
        | cons c cs =>
          rw [hcs] at hkept hhead
          exact head?_kept (by simpa using hhead) (prefix_of_kept hkept)
      refine ⟨?_, front, m, back, ?_, hstay⟩
      · rw [isAbsolute_ofList, List.nil_append, beq_eq_false_iff_ne.2 hslash,
          beq_eq_false_iff_ne.2 hhead]
      rw [moves_ofList, List.nil_append, movesOf_kept hkept, ← hmoves]
      rfl
    · simp at h

/-- A path without a parent leads nowhere else. It is empty, or absolute, or says that it stays. -/
theorem stays_of_parent?_eq_none {p : Path} (h : p.parent? = none) :
    (∀ m ∈ p.moves, m = .stay) ∧ (p.isAbsolute = true ∨ p.text.toList = [] ∨ p.moves ≠ []) := by
  obtain ⟨text⟩ := p
  show (∀ m ∈ movesOf text.toList, m = .stay) ∧ ((text.toList.head? == some '/') = true ∨
    text.toList = [] ∨ movesOf text.toList ≠ [])
  unfold parent? at h
  rcases splitLead_cases text.toList with ⟨body, htext, hlead⟩ | ⟨htext, hlead⟩ |
    ⟨body, htext, hlead⟩ | ⟨hhead, hlead⟩
  · simp only [hlead] at h
    split at h
    · cases h
    · next hnone =>
      have hroot : movesOf ('/' :: body) = movesOf body := movesOf_append_slash [] body
      rw [htext, hroot]
      exact ⟨eq_stay_of_isIdle (isIdle_of_dropWhile hnone), .inl rfl⟩
  · simp only [hlead] at h
    cases h
  · simp only [hlead] at h
    split at h <;> cases h
  · simp only [hlead] at h
    split at h
    · cases h
    · next hnone =>
      refine ⟨eq_stay_of_isIdle (isIdle_of_dropWhile hnone), .inr ?_⟩
      cases htext : text.toList with
      | nil => exact .inl rfl
      | cons c cs =>
        -- The first piece is not empty, so it is a dot.
        rw [htext] at hnone hhead
        obtain ⟨piece, pieces, hsplit⟩ := Text.exists_splitOn_cons (by simpa using hhead) cs
        have hfirst := isIdle_of_dropWhile hnone (c :: piece)
          (by rw [hsplit]; exact List.mem_cons_self)
        have hdot : c :: piece = ['.'] := by simpa [isIdle] using hfirst
        right
        rw [movesOf, hsplit, hdot]
        simp [moveOf?]

/-! ## The text of a location -/

/-- A name that something can have: no slash is in it, and no path takes it for a move of another
kind. -/
def IsName (n : String) : Prop := n ≠ "" ∧ n ≠ "." ∧ n ≠ ".." ∧ '/' ∉ n.toList

instance (n : String) : Decidable (IsName n) := inferInstanceAs (Decidable (_ ∧ _))

theorem moveOf?_toList {n : String} (h : IsName n) : moveOf? n.toList = some (.into n) := by
  obtain ⟨hempty, hdot, hup, -⟩ := h
  have hne : ∀ s : String, n ≠ s → n.toList ≠ s.toList := fun s h heq => h (String.toList_inj.1 heq)
  have hempty' : n.toList ≠ [] := hne "" hempty
  have hdot' : n.toList ≠ ['.'] := hne "." hdot
  have hup' : n.toList ≠ ['.', '.'] := hne ".." hup
  rw [moveOf?, if_neg hempty', if_neg hdot', if_neg hup', String.ofList_toList]

/-- Whatever a path goes into has a name that something can have. -/
theorem isName_of_mem_moves {p : Path} {n : String} (h : Move.into n ∈ p.moves) : IsName n := by
  obtain ⟨piece, hpiece, hmove⟩ := List.mem_filterMap.1 h
  have hslash : '/' ∉ piece := Text.not_mem_of_mem_splitOn hpiece
  unfold moveOf? at hmove
  split at hmove
  · cases hmove
  · next hempty =>
    split at hmove
    · cases hmove
    · next hdot =>
      split at hmove
      · cases hmove
      · next hup =>
        cases hmove
        have hne : ∀ s : String, piece ≠ s.toList → String.ofList piece ≠ s := by
          rintro s hs rfl
          exact hs String.toList_ofList.symm
        exact ⟨hne "" hempty, hne "." hdot, hne ".." hup, by rwa [String.toList_ofList]⟩

theorem filterMap_moveOf?_toList {l : Location} (h : ∀ n ∈ l, IsName n) :
    (l.map String.toList).filterMap moveOf? = l.map .into := by
  induction l with
  | nil => rfl
  | cons n l ih =>
    obtain ⟨hn, hl⟩ := List.forall_mem_cons.1 h
    rw [List.map_cons, List.filterMap_cons_some (moveOf?_toList hn), ih hl]
    rfl

/-- The text of a location goes down name by name. -/
theorem moves_ofLocation {l : Location} (h : ∀ n ∈ l, IsName n) :
    (ofLocation l).moves = l.map .into := by
  have hslash : ∀ piece ∈ l.map String.toList, '/' ∉ piece := by
    simpa using fun n hn => (h n hn).2.2.2
  have htext : (ofLocation l).text.toList =
      [] ++ '/' :: ((l.map String.toList).intersperse ['/']).flatten := by
    rw [ofLocation, String.toList_append, String.toList_intercalate]
    rfl
  show movesOf (ofLocation l).text.toList = _
  rw [htext, movesOf_append_slash, movesOf_join hslash, filterMap_moveOf?_toList h]
  rfl

end Path

end DemoReel
