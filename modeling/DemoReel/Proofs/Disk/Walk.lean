import DemoReel.Effect.Loading
import DemoReel.Proofs.Disk.Moves
import DemoReel.Proofs.Fallible

/-!
# Where paths lead

A path leads somewhere from the root or from the working directory. Main statements: the names of
assets lead to where they lead from the directory of the script exactly as long as the path of that
directory still leads there (`faithful_iff`); it does if the path is absolute or the working
directory is the same (`KeepsDirectories.faithful`), and a relative path that never goes up does so
from one working directory only (`workingDir_eq_of_faithful`).
-/

namespace DemoReel

namespace Disk

/-- The same files, seen from a directory. -/
def seenFrom (l : Location) (d : Disk) : Disk := { d with workingDir := l }

/-- Where a path leads. -/
def locate (d : Disk) (p : Path) : Except Fault Location := d.walk (d.start p) p.moves

/-- What a directory of `d` is in `d'`, too. -/
def KeepsDirectories (d d' : Disk) : Prop :=
  ∀ l, d.lookup l = some .directory → d'.lookup l = some .directory

/-- Everything stands in a directory. -/
def Rooted (d : Disk) : Prop :=
  ∀ l e, d.lookup l = some e → d.lookup l.dropLast = some .directory

variable {d d' : Disk}

/-! ## Walks -/

/-- Where one move leads. -/
def move (d : Disk) (l : Location) (m : Path.Move) : Except Fault Location :=
  match d.lookup l with
  | none => .error .noSuchFile
  | some (.file _) => .error .notADirectory
  | some .directory =>
    match m with
    | .stay => .ok l
    | .up => .ok l.dropLast
    | .into n => if maxNameBytes < n.utf8ByteSize then .error .nameTooLong else .ok (l ++ [n])

theorem walk_cons (d : Disk) (l : Location) (m : Path.Move) (ms : List Path.Move) :
    d.walk l (m :: ms) = (d.move l m).bind fun l' => d.walk l' ms := by
  unfold move
  rw [walk.eq_def]
  dsimp only
  rcases d.lookup l with - | - | content
  · rfl
  · cases m with
    | stay => rfl
    | up => rfl
    | into n =>
      dsimp only
      split <;> rfl
  · rfl

theorem walk_append (d : Disk) (l : Location) (ms ms' : List Path.Move) :
    d.walk l (ms ++ ms') = (d.walk l ms).bind fun l' => d.walk l' ms' := by
  induction ms generalizing l with
  | nil => rfl
  | cons m ms ih =>
    rw [List.cons_append, walk_cons, walk_cons]
    cases d.move l m with
    | error why => rfl
    | ok l' => exact ih l'

theorem walk_cons_eq_ok_iff {l l' : Location} {m : Path.Move} {ms : List Path.Move} :
    d.walk l (m :: ms) = .ok l' ↔ ∃ via, d.move l m = .ok via ∧ d.walk via ms = .ok l' := by
  rw [walk_cons]
  exact bind_eq_ok_iff

theorem walk_append_eq_ok_iff {l l' : Location} {ms ms' : List Path.Move} :
    d.walk l (ms ++ ms') = .ok l' ↔ ∃ via, d.walk l ms = .ok via ∧ d.walk via ms' = .ok l' := by
  rw [walk_append]
  exact bind_eq_ok_iff

/-- Every move starts from a directory. -/
theorem move_eq_ok_iff {l l' : Location} {m : Path.Move} :
    d.move l m = .ok l' ↔ d.lookup l = some .directory ∧
      match m with
      | .stay => l' = l
      | .up => l' = l.dropLast
      | .into n => n.utf8ByteSize ≤ maxNameBytes ∧ l' = l ++ [n] := by
  unfold move
  split
  · next h => simp [h]
  · next h => simp [h]
  · next h =>
    rw [h]
    cases m with
    | stay => simp [eq_comm]
    | up => simp [eq_comm]
    | into n =>
      by_cases hn : maxNameBytes < n.utf8ByteSize
      · simp [hn, Nat.not_le.2 hn]
      · simp [hn, Nat.not_lt.1 hn, eq_comm]

theorem KeepsDirectories.move (h : d.KeepsDirectories d') {l l' : Location} {m : Path.Move}
    (hmove : d.move l m = .ok l') : d'.move l m = .ok l' := by
  obtain ⟨hdir, hto⟩ := move_eq_ok_iff.1 hmove
  exact move_eq_ok_iff.2 ⟨h l hdir, hto⟩

theorem KeepsDirectories.walk (h : d.KeepsDirectories d') {l l' : Location} {ms : List Path.Move}
    (hwalk : d.walk l ms = .ok l') : d'.walk l ms = .ok l' := by
  induction ms generalizing l with
  | nil => exact hwalk
  | cons m ms ih =>
    obtain ⟨via, hmove, hrest⟩ := walk_cons_eq_ok_iff.1 hwalk
    exact walk_cons_eq_ok_iff.2 ⟨via, h.move hmove, ih hrest⟩

/-- A walk that never goes up goes down, by the same names from everywhere. -/
theorem exists_names_of_walk {ms : List Path.Move} (h : ∀ m ∈ ms, m ≠ .up) :
    ∃ names, ∀ {d : Disk} {l l' : Location}, d.walk l ms = .ok l' → l' = l ++ names := by
  induction ms with
  | nil =>
    refine ⟨[], fun hwalk => ?_⟩
    cases hwalk
    exact (List.append_nil _).symm
  | cons m ms ih =>
    obtain ⟨hm, hms⟩ := List.forall_mem_cons.1 h
    obtain ⟨names, hnames⟩ := ih hms
    cases m with
    | up => exact absurd rfl hm
    | stay =>
      refine ⟨names, fun hwalk => ?_⟩
      obtain ⟨via, hmove, hrest⟩ := walk_cons_eq_ok_iff.1 hwalk
      rw [hnames hrest, (move_eq_ok_iff.1 hmove).2]
    | into n =>
      refine ⟨n :: names, fun hwalk => ?_⟩
      obtain ⟨via, hmove, hrest⟩ := walk_cons_eq_ok_iff.1 hwalk
      rw [hnames hrest, (move_eq_ok_iff.1 hmove).2.2]
      simp

/-- Moves that stay lead nowhere else. -/
theorem eq_of_walk_stay {ms : List Path.Move} (h : ∀ m ∈ ms, m = .stay) {l l' : Location}
    (hwalk : d.walk l ms = .ok l') : l' = l := by
  induction ms with
  | nil =>
    cases hwalk
    rfl
  | cons m ms ih =>
    obtain ⟨rfl, hms⟩ := List.forall_mem_cons.1 h
    obtain ⟨via, hmove, hrest⟩ := walk_cons_eq_ok_iff.1 hwalk
    obtain rfl := (move_eq_ok_iff.1 hmove).2
    exact ih hms hrest

/-- Names are gone into one after the other. -/
theorem eq_of_walk_into {ns : List String} {l l' : Location}
    (h : d.walk l (ns.map .into) = .ok l') : l' = l ++ ns := by
  induction ns generalizing l with
  | nil =>
    cases h
    exact (List.append_nil _).symm
  | cons n ns ih =>
    obtain ⟨via, hmove, hrest⟩ := walk_cons_eq_ok_iff.1 h
    rw [ih hrest, (move_eq_ok_iff.1 hmove).2.2, List.append_assoc]
    rfl

/-! ## Where paths lead -/

/-- The working directory has no say in a walk. -/
@[simp] theorem walk_seenFrom (d : Disk) (dir l : Location) (ms : List Path.Move) :
    (d.seenFrom dir).walk l ms = d.walk l ms := by
  induction ms generalizing l with
  | nil => rfl
  | cons m ms ih =>
    have hmove : (d.seenFrom dir).move l m = d.move l m := rfl
    rw [walk_cons, walk_cons, hmove]
    cases d.move l m with
    | error why => rfl
    | ok l' => exact ih l'

theorem locate_of_not_isAbsolute {p : Path} (h : p.isAbsolute = false) (d : Disk)
    (dir : Location) : (d.seenFrom dir).locate p = d.walk dir p.moves := by
  rw [locate, start, if_neg (by simp [h]), walk_seenFrom]
  rfl

/-- A name that is seen from a directory is walked to from where the directory is. -/
theorem locate_join (d : Disk) {p q : Path} (h : q.isAbsolute = false) :
    d.locate (p.join q) = (d.locate p).bind fun l => (d.seenFrom l).locate q := by
  have hstart : d.start (p.join q) = d.start p := by
    rw [start, start, Path.isAbsolute_join h]
  rw [locate, hstart, Path.moves_join h, walk_append, ← locate]
  cases d.locate p with
  | error why => rfl
  | ok l => exact (locate_of_not_isAbsolute h d l).symm

/-- What is found is where its path leads, and a slash at the end of the path changes nothing. -/
theorem locate_of_resolve {p : Path} {l : Location} {e : Entry} (h : d.resolve p = .ok (l, e)) :
    d.locate p = .ok l ∧ d.lookup l = some e := by
  have hfollow : d.follow p = .ok (l, e) := by
    unfold resolve at h
    cases hcheck : checkPath p with
    | error why => simp [hcheck, bind, Except.bind] at h
    | ok _ => simpa [hcheck, bind, Except.bind] using h
  unfold follow at hfollow
  cases hcheck : checkName p with
  | error why => simp [hcheck, bind, Except.bind] at hfollow
  | ok _ =>
    cases hwalk : d.walk (d.start p) (p.moves ++ if p.endsInSlash then [.stay] else []) with
    | error why => simp [hcheck, hwalk, bind, Except.bind] at hfollow
    | ok l' =>
      simp only [hcheck, hwalk, bind, Except.bind] at hfollow
      split at hfollow
      · next e' he =>
        cases hfollow
        obtain ⟨via, hvia, hrest⟩ := walk_append_eq_ok_iff.1 hwalk
        have hstay : ∀ m ∈ (if p.endsInSlash then [Path.Move.stay] else []), m = .stay := by
          split <;> simp
        obtain rfl := eq_of_walk_stay hstay hrest
        exact ⟨hvia, he⟩
      · cases hfollow

/-! ## Entering directories -/

/-- Entering a directory changes nothing but where relative names start from. -/
theorem enter_eq_ok_iff {p : Path} :
    d.enter p = .ok d' ↔ ∃ l, d.resolve p = .ok (l, .directory) ∧ d' = d.seenFrom l := by
  rw [enter, bind_eq_ok_iff]
  constructor
  · rintro ⟨⟨l, e⟩, hresolve, hto⟩
    cases e with
    | directory =>
      cases hto
      exact ⟨l, hresolve, rfl⟩
    | file content => cases hto
  · rintro ⟨l, hresolve, rfl⟩
    exact ⟨(l, .directory), hresolve, rfl⟩

theorem isName_of_walk {ms : List Path.Move} (hms : ∀ n, .into n ∈ ms → Path.IsName n)
    {l l' : Location} (hl : ∀ n ∈ l, Path.IsName n) (h : d.walk l ms = .ok l') :
    ∀ n ∈ l', Path.IsName n := by
  induction ms generalizing l with
  | nil =>
    cases h
    exact hl
  | cons m ms ih =>
    obtain ⟨via, hmove, hrest⟩ := walk_cons_eq_ok_iff.1 h
    have hto := (move_eq_ok_iff.1 hmove).2
    refine ih (fun n hn => hms n (List.mem_cons_of_mem m hn)) ?_ hrest
    cases m with
    | stay => exact hto ▸ hl
    | up => exact hto ▸ fun n hn => hl n (List.dropLast_subset l hn)
    | into n =>
      rw [hto.2]
      exact List.forall_mem_append.2
        ⟨hl, List.forall_mem_singleton.2 (hms n List.mem_cons_self)⟩

/-- Wherever one enters, all is named by names that something can have, if it was so before. -/
theorem isName_of_enter {p : Path} (hnames : ∀ n ∈ d.workingDir, Path.IsName n)
    (h : d.enter p = .ok d') : ∀ n ∈ d'.workingDir, Path.IsName n := by
  obtain ⟨l, hresolve, rfl⟩ := enter_eq_ok_iff.1 h
  have hlocate := (locate_of_resolve hresolve).1
  refine isName_of_walk (fun n hn => Path.isName_of_mem_moves hn) ?_ hlocate
  unfold start
  split
  · nofun
  · exact hnames

/-- The text of a location leads back to it. -/
theorem eq_of_enter_ofLocation {l : Location} (hl : ∀ n ∈ l, Path.IsName n)
    (h : d.enter (.ofLocation l) = .ok d') : d' = d.seenFrom l := by
  obtain ⟨l', hresolve, rfl⟩ := enter_eq_ok_iff.1 h
  have hlocate := (locate_of_resolve hresolve).1
  have hroot : (Path.ofLocation l).isAbsolute = true := by
    simp [Path.isAbsolute, Path.ofLocation]
  rw [locate, start, if_pos hroot, Path.moves_ofLocation hl] at hlocate
  rw [eq_of_walk_into hlocate]
  rfl

/-! ## Parents -/

/-- What a path leads to stands where its parent leads; if it is a file, directly inside. -/
theorem exists_locate_parent {p b : Path} (hparent : p.parent? = some b) {l : Location}
    (h : d.locate p = .ok l) :
    ∃ dir, d.locate b = .ok dir ∧
      ∀ content, d.Rooted → d.lookup l = some (.file content) → ∃ n, l = dir ++ [n] := by
  obtain ⟨habsolute, front, m, back, hmoves, hfront, hback⟩ := Path.exists_moves_of_parent? hparent
  have hstart : d.start b = d.start p := by rw [start, start, habsolute]
  rw [locate, hmoves] at h
  obtain ⟨via, hvia, hlast⟩ := walk_append_eq_ok_iff.1 h
  obtain ⟨dir, hdir, hstay⟩ := walk_append_eq_ok_iff.1 hvia
  obtain rfl := eq_of_walk_stay hfront hstay
  refine ⟨via, by rw [locate, hstart, hdir], fun content hrooted hfile => ?_⟩
  obtain ⟨next, hmove, hrest⟩ := walk_cons_eq_ok_iff.1 hlast
  obtain rfl := eq_of_walk_stay hback hrest
  obtain ⟨hisDir, hto⟩ := move_eq_ok_iff.1 hmove
  -- A move that does not go into something leads to a directory.
  cases m with
  | stay =>
    rw [hto, hisDir] at hfile
    cases hfile
  | up =>
    rw [hto, hrooted via .directory hisDir] at hfile
    cases hfile
  | into n => exact ⟨n, hto.2⟩

/-- A path that leads to a file has a parent. -/
theorem exists_parent?_of_file {p : Path} {l : Location} {content : ByteArray}
    (h : d.resolve p = .ok (l, .file content)) : ∃ b, p.parent? = some b := by
  cases hparent : p.parent? with
  | some b => exact ⟨b, rfl⟩
  | none =>
    obtain ⟨hlocate, hlookup⟩ := locate_of_resolve h
    obtain ⟨hstay, hwhere⟩ := Path.stays_of_parent?_eq_none hparent
    obtain rfl : l = d.start p := eq_of_walk_stay hstay hlocate
    -- It leads to where it starts, which is a directory if the path says anything.
    exfalso
    rcases hwhere with habsolute | hempty | hmoves
    · rw [start, if_pos habsolute, lookup_nil] at hlookup
      cases hlookup
    · have hisEmpty : p.text = "" := by simpa using hempty
      simp [resolve, checkPath, checkName, hisEmpty, bind, Except.bind] at h
    · obtain ⟨m, ms, hcons⟩ := List.exists_cons_of_ne_nil hmoves
      rw [locate, hcons] at hlocate
      obtain ⟨via, hmove, -⟩ := walk_cons_eq_ok_iff.1 hlocate
      rw [(move_eq_ok_iff.1 hmove).1] at hlookup
      cases hlookup

/-! ## Asset names -/

/-- Relative asset names lead to where they lead from the directory `home`. -/
def Faithful (d : Disk) (base : Path) (home : Location) : Prop :=
  ∀ name, (⟨name⟩ : Path).isAbsolute = false →
    d.locate ((⟨some base⟩ : Assets).resolve name) = (d.seenFrom home).locate ⟨name⟩

variable {base : Path} {home : Location}

theorem faithful_iff : d.Faithful base home ↔ d.locate base = .ok home := by
  constructor
  · intro h
    -- The empty name stands for the directory itself.
    have hself : ∀ l, (d.seenFrom l).locate ⟨""⟩ = .ok l := fun l =>
      locate_of_not_isAbsolute (p := ⟨""⟩) rfl d l
    have hempty := h "" rfl
    rw [Assets.resolve, locate_join d rfl, hself] at hempty
    cases hbase : d.locate base with
    | error why => simp [hbase, Except.bind] at hempty
    | ok l =>
      rw [hbase] at hempty
      exact (hself l).symm.trans hempty
  · intro h name hname
    rw [Assets.resolve, locate_join d hname, h]
    rfl

/-- From the same working directory, or by an absolute path, the directory is found again. -/
theorem KeepsDirectories.faithful (h : d.KeepsDirectories d') (hbase : d.locate base = .ok home)
    (hsame : base.isAbsolute = true ∨ d'.workingDir = d.workingDir) : d'.Faithful base home := by
  have hstart : d'.start base = d.start base := by
    unfold start
    rcases hsame with habsolute | hdir
    · rw [if_pos habsolute, if_pos habsolute]
    · rw [hdir]
  rw [faithful_iff, locate, hstart]
  exact h.walk hbase

/-- By a relative path that never goes up, the directory is found from its own working directory
only. -/
theorem workingDir_eq_of_faithful (hbase : d.locate base = .ok home)
    (hrelative : base.isAbsolute = false) (hdown : ∀ m ∈ base.moves, m ≠ .up)
    (h : d'.Faithful base home) : d'.workingDir = d.workingDir := by
  obtain ⟨names, hnames⟩ := exists_names_of_walk hdown
  have hfrom : ∀ {e : Disk}, e.locate base = .ok home → home = e.workingDir ++ names := by
    intro e he
    rw [locate, start, if_neg (by simp [hrelative])] at he
    exact hnames he
  have hthere := hfrom hbase
  rw [hfrom (faithful_iff.1 h)] at hthere
  exact List.append_cancel_right hthere

end Disk

end DemoReel
