import DemoReel.Proofs.Part.Change

/-!
# The career of a part

A registry goes by names, and a part can move from one to another. Here a part is followed from the
change that brings it to the one that takes it away, by the name that it has at each moment. Main
statement: the part is under that name and no other, and its status and settings are what its own
career has made of them (`state_follows_part`).
-/

namespace DemoReel

variable {π : Type}

namespace Registry

/-! ## What changes mean for the part that has a name -/

/-- The name of the part after a change, unless the change takes it away: it is removed, or another
part comes to its name. A refused change means nothing. -/
def nameAfter (name : String) : Change π × Bool → Option String
  | (.add new _ _, true) => if name = new then none else some name
  | (.remove gone, true) => if name = gone then none else some name
  | (.rename old new, true) =>
    if name = old then some new else if name = new then none else some name
  | _ => some name

/-- An event in the life of a part that has a say in whether it runs. -/
inductive Mark where
  | added
  | started (time : Int)
  | stopped
  | allStopped
  deriving DecidableEq, Repr

/-- The status that a part has after an event. -/
def Mark.status : Mark → PartStatus
  | .started time => .running time
  | _ => .idle

/-- What a change is in the life of the part that has a name. -/
def mark? : String × Change π × Bool → Option Mark
  | (name, .start n time, true) => if name = n then some (.started time) else none
  | (name, .stop n, true) => if name = n then some .stopped else none
  | (_, .stopAll, true) => some .allStopped
  | _ => none

/-- What a change makes of the settings of the part that has a name. -/
def adjust (s : PartSettings) : String × Change π × Bool → PartSettings
  | (name, .setTarget n target, true) => if name = n then { s with target } else s
  | (name, .setClear n clear, true) => if name = n then { s with clear } else s
  | _ => s

/-- The changes for as long as the part is there, each with the name that the part has then. -/
def career (name : String) : History π → List (String × Change π × Bool)
  | [] => []
  | x :: log => (name, x) :: ((nameAfter name x).elim [] fun name => career name log)

/-- The name that the part has in the end, if it is still there. -/
def follow (name : String) : History π → Option String
  | [] => some name
  | x :: log => (nameAfter name x).bind fun name => follow name log

/-- The events in the life of the part, from the one that brought it. -/
def marks (name : String) (log : History π) : List Mark :=
  .added :: (career name log).filterMap mark?

/-- The settings of the part after the changes. -/
def adjusted (name : String) (settings : PartSettings) (log : History π) : PartSettings :=
  (career name log).foldl adjust settings

end Registry

/-- The entry of a part after a change, if the part is still there. -/
def Enrolled.changed (e : Enrolled π) (x : String × Registry.Change π × Bool) : Enrolled π :=
  ⟨e.part, Registry.adjust e.settings x, ((Registry.mark? x).map (·.status)).getD e.status⟩

namespace Enrolled

/-- The entry of a part after its career. -/
def grown (e : Enrolled π) (xs : List (String × Registry.Change π × Bool)) : Enrolled π :=
  xs.foldl changed e

variable (e : Enrolled π) (xs : List (String × Registry.Change π × Bool))

theorem settings_grown : (e.grown xs).settings = xs.foldl Registry.adjust e.settings := by
  induction xs generalizing e with
  | nil => rfl
  | cons x xs ih => exact ih (e.changed x)

/-- The last event decides the status. -/
theorem status_grown (m : Registry.Mark) (h : e.status = m.status) :
    some (e.grown xs).status = ((m :: xs.filterMap Registry.mark?).getLast?).map (·.status) := by
  induction xs generalizing e m with
  | nil => exact congrArg some h
  | cons x xs ih =>
    show some ((e.changed x).grown xs).status = _
    cases hx : Registry.mark? x with
    | none =>
      rw [ih (e.changed x) m (by simp [changed, hx, h]), List.filterMap_cons_none hx]
    | some m' =>
      rw [ih (e.changed x) m' (by simp [changed, hx]), List.filterMap_cons_some hx,
        List.getLast?_cons_cons]

end Enrolled

theorem Registry.Mark.status_eq_running {m : Registry.Mark} {time : Int} :
    m.status = .running time ↔ m = .started time := by
  cases m <;> simp [Registry.Mark.status]

/-- A part that did not run before its career runs if the last event of its career is a start. -/
theorem Enrolled.grown_running_iff {e : Enrolled π} (he : e.status = .idle)
    (xs : List (String × Registry.Change π × Bool)) (time : Int) :
    (e.grown xs).status = .running time ↔
      (Registry.Mark.added :: xs.filterMap Registry.mark?).getLast? = some (.started time) := by
  have hstatus := status_grown e xs .added he
  cases hlast : (Registry.Mark.added :: xs.filterMap Registry.mark?).getLast? with
  | none => simp at hlast
  | some m =>
    rw [hlast] at hstatus
    rw [Option.some.inj hstatus, Option.some_inj]
    exact Registry.Mark.status_eq_running

namespace Registry

/-! ## Where a part is -/

/-- The part of the entry `e` is in the registry, under `name` and no other name. -/
structure Holds (r : Registry π) (name : String) (e : Enrolled π) : Prop where
  here : r.get? name = some e
  only : ∀ n e', r.get? n = some e' → e'.part = e.part → n = name

/-- The part is not in the registry. -/
def Lacks (r : Registry π) (part : π) : Prop := ∀ n e, r.get? n = some e → e.part ≠ part

/-- The registry has the part under the name and with the entry that are given, or not at all. -/
def Has (r : Registry π) (part : π) : Option (String × Enrolled π) → Prop
  | some (name, e) => e.part = part ∧ r.Holds name e
  | none => r.Lacks part

section

variable {r r' : Registry π} {name : String} {e : Enrolled π} {part : π}

theorem Has.exists_get?_iff {here : Option String} (h : r.Has part (here.map fun n => (n, e)))
    (n : String) : (∃ e', r.get? n = some e' ∧ e'.part = part) ↔ here = some n := by
  cases here with
  | none => exact ⟨fun ⟨e', he', hpart⟩ => absurd hpart (h n e' he'), fun hn => nomatch hn⟩
  | some m =>
    obtain ⟨hpart, hm⟩ := h
    constructor
    · rintro ⟨e', he', hpart'⟩
      rw [hm.only n e' he' (hpart'.trans hpart.symm)]
    · rintro ⟨⟩
      exact ⟨e, hm.here, hpart⟩

/-- Entries may change in place. -/
theorem Holds.of_map (h : r.Holds name e) {g : String → Enrolled π → Enrolled π}
    (hg : ∀ n e, (g n e).part = e.part) (hget : ∀ n, r'.get? n = (r.get? n).map (g n)) :
    r'.Holds name (g name e) := by
  refine ⟨by rw [hget, h.here, Option.map_some], fun n e' he' hpart => ?_⟩
  rw [hget] at he'
  obtain ⟨e₀, he₀, rfl⟩ := Option.map_eq_some_iff.1 he'
  rw [hg, hg] at hpart
  exact h.only n e₀ he₀ hpart

/-- No change brings a part but the one that it has with it. -/
theorem exists_part_of_get?_after {c : Change π} {n : String} {e' : Enrolled π}
    (h : (r.after c).get? n = some e') :
    c.part? = some e'.part ∨ ∃ n₀ e₀, r.get? n₀ = some e₀ ∧ e₀.part = e'.part := by
  -- Entries that change in place keep their parts.
  have hmap : ∀ {g : Enrolled π → Enrolled π}, (∀ e, (g e).part = e.part) →
      (r.get? n).map g = some e' → ∃ n₀ e₀, r.get? n₀ = some e₀ ∧ e₀.part = e'.part := by
    intro g hg hget
    obtain ⟨e₀, he₀, rfl⟩ := Option.map_eq_some_iff.1 hget
    exact ⟨n, e₀, he₀, (hg e₀).symm⟩
  cases haccepted : c.isAccepted r with
  | false =>
    rw [after_of_refused haccepted] at h
    exact .inr ⟨n, e', h, rfl⟩
  | true =>
    cases c with
    | add name part settings =>
      rw [get?_after_add name n part settings (isAccepted_add_iff.1 haccepted)] at h
      split at h
      · cases h
        exact .inl rfl
      · exact .inr ⟨n, e', h, rfl⟩
    | remove name =>
      rw [get?_after_remove] at h
      split at h
      · cases h
      · exact .inr ⟨n, e', h, rfl⟩
    | rename name new =>
      obtain ⟨hnew, e₀, he₀⟩ := isAccepted_rename_iff.1 haccepted
      rw [get?_after_rename name n hnew he₀] at h
      split at h
      · cases h
        exact .inr ⟨name, e', he₀, rfl⟩
      · split at h
        · cases h
        · exact .inr ⟨n, e', h, rfl⟩
    | start name time =>
      rw [get?_after_start] at h
      exact .inr (hmap (fun e => by split <;> rfl) h)
    | stop name =>
      rw [get?_after_stop] at h
      exact .inr (hmap (fun e => by split <;> rfl) h)
    | stopAll =>
      rw [get?_after_stopAll] at h
      exact .inr (hmap (g := fun e => { e with status := .idle }) (fun e => rfl) h)
    | setTarget name target =>
      rw [after, Change.on, setTarget, get?_settle_configure] at h
      exact .inr (hmap (fun e => by split <;> rfl) h)
    | setClear name clear =>
      rw [after, Change.on, setClear, get?_settle_configure] at h
      exact .inr (hmap (fun e => by split <;> rfl) h)

theorem Lacks.after (h : r.Lacks part) {c : Change π} (hc : c.part? ≠ some part) :
    (r.after c).Lacks part := by
  intro n e he hpart
  subst hpart
  rcases exists_part_of_get?_after he with hbrought | ⟨n₀, e₀, he₀, hsame⟩
  · exact hc hbrought
  · exact h n₀ e₀ he₀ hsame

/-! ### One change, for a part that is there -/

theorem Holds.after_add (h : r.Holds name e) {new : String} {settings : PartSettings}
    (hnew : new ≠ "") (hpart : part ≠ e.part) :
    (r.after (.add new part settings)).Has e.part
      ((if name = new then none else some name).map fun n => (n, e)) := by
  have hget := fun n => get?_after_add (r := r) new n part settings hnew
  by_cases hsame : name = new
  · -- The new part takes the place of this one.
    rw [if_pos hsame]
    intro n e' he' hpart'
    rw [hget] at he'
    split at he'
    · cases he'
      exact hpart hpart'
    · next hn => exact hn ((h.only n e' he' hpart').trans hsame)
  · rw [if_neg hsame]
    refine ⟨rfl, by rw [hget, if_neg hsame, h.here], fun n e' he' hpart' => ?_⟩
    rw [hget] at he'
    split at he'
    · cases he'
      exact absurd hpart' hpart
    · exact h.only n e' he' hpart'

theorem Holds.after_remove (h : r.Holds name e) (gone : String) :
    (r.after (.remove gone)).Has e.part
      ((if name = gone then none else some name).map fun n => (n, e)) := by
  by_cases hsame : name = gone
  · rw [if_pos hsame]
    intro n e' he' hpart
    rw [get?_after_remove] at he'
    split at he'
    · cases he'
    · next hn => exact hn ((h.only n e' he' hpart).trans hsame)
  · rw [if_neg hsame]
    refine ⟨rfl, by rw [get?_after_remove, if_neg hsame, h.here], fun n e' he' hpart => ?_⟩
    rw [get?_after_remove] at he'
    split at he'
    · cases he'
    · exact h.only n e' he' hpart

/-- The part moves, or another part moves to its name, or to a name that is not its. -/
theorem Holds.after_rename (h : r.Holds name e) {old new : String} {e₀ : Enrolled π}
    (hnew : new ≠ "") (he₀ : r.get? old = some e₀) :
    (r.after (.rename old new)).Has e.part
      ((if name = old then some new else if name = new then none else some name).map
        fun n => (n, e)) := by
  have hget := fun n => get?_after_rename (r := r) old n hnew he₀
  by_cases hold : name = old
  · rw [if_pos hold]
    have hsame : e₀ = e := by
      rw [← hold, h.here] at he₀
      exact (Option.some.inj he₀).symm
    refine ⟨rfl, by rw [hget, if_pos rfl, hsame], fun n e' he' hpart => ?_⟩
    rw [hget] at he'
    split at he'
    · next hn => exact hn
    · split at he'
      · cases he'
      · next hn => exact absurd ((h.only n e' he' hpart).trans hold) hn
  rw [if_neg hold]
  have hother : e₀.part ≠ e.part := fun hpart => hold (h.only old e₀ he₀ hpart).symm
  by_cases hsame : name = new
  · rw [if_pos hsame]
    intro n e' he' hpart
    rw [hget] at he'
    split at he'
    · cases he'
      exact hother hpart
    · next hn =>
      split at he'
      · cases he'
      · exact hn ((h.only n e' he' hpart).trans hsame)
  · rw [if_neg hsame]
    refine ⟨rfl, by rw [hget, if_neg hsame, if_neg hold, h.here], fun n e' he' hpart => ?_⟩
    rw [hget] at he'
    split at he'
    · cases he'
      exact absurd hpart hother
    · split at he'
      · cases he'
      · exact h.only n e' he' hpart

theorem Holds.settle_configure (h : r.Holds name e) (n : String) (f : PartSettings → PartSettings) :
    (r.settle (r.configure n f)).Holds name
      { e with settings := if name = n then f e.settings else e.settings } := by
  have hheld := h.of_map (fun n e => by split <;> rfl) fun m =>
    get?_settle_configure n m f
  by_cases hn : name = n
  · simpa only [if_pos hn] using hheld
  · simpa only [if_neg hn] using hheld

/-- What a change makes of a part that is in the registry: it is under the name that follows from
the change, with the entry that follows from it, or it is gone. -/
theorem Holds.after (h : r.Holds name e) {c : Change π} (hc : c.part? ≠ some e.part) :
    let x := (c, c.isAccepted r)
    (r.after c).Has e.part ((nameAfter name x).map fun n => (n, e.changed (name, x))) := by
  intro x
  cases haccepted : c.isAccepted r with
  | false =>
    have hx : x = (c, false) := Prod.ext rfl haccepted
    have hname : nameAfter name x = some name := by rw [hx]; cases c <;> rfl
    have hchanged : e.changed (name, x) = e := by rw [hx]; cases c <;> rfl
    rw [hname, hchanged, after_of_refused haccepted]
    exact ⟨rfl, h⟩
  | true =>
    have hx : x = (c, true) := Prod.ext rfl haccepted
    rw [hx]
    cases c with
    | add new part settings =>
      have hpart : part ≠ e.part := fun hpart => hc (congrArg some hpart)
      exact h.after_add (isAccepted_add_iff.1 haccepted) hpart
    | remove gone => exact h.after_remove gone
    | rename old new =>
      obtain ⟨hnew, e₀, he₀⟩ := isAccepted_rename_iff.1 haccepted
      exact h.after_rename hnew he₀
    | start n time =>
      have hheld := h.of_map (fun n e => by split <;> rfl) fun m =>
        get?_after_start n m time
      refine ⟨rfl, ?_⟩
      by_cases hn : name = n
      · simpa [hn, Enrolled.changed, adjust, mark?, Mark.status] using hheld
      · simpa [hn, Enrolled.changed, adjust, mark?] using hheld
    | stop n =>
      have hheld := h.of_map (fun n e => by split <;> rfl) fun m => get?_after_stop n m
      refine ⟨rfl, ?_⟩
      by_cases hn : name = n
      · simpa [hn, Enrolled.changed, adjust, mark?, Mark.status] using hheld
      · simpa [hn, Enrolled.changed, adjust, mark?] using hheld
    | stopAll =>
      exact ⟨rfl, h.of_map (g := fun _ e => { e with status := .idle }) (fun n e => rfl)
        get?_after_stopAll⟩
    | setTarget n target => exact ⟨rfl, h.settle_configure n fun s => { s with target }⟩
    | setClear n clear => exact ⟨rfl, h.settle_configure n fun s => { s with clear }⟩

/-! ### Many changes -/

theorem Lacks.run (h : r.Lacks part) {cs : List (Change π)}
    (hcs : ∀ c ∈ cs, c.part? ≠ some part) : (r.run cs).Lacks part := by
  induction cs generalizing r with
  | nil => exact h
  | cons c cs ih =>
    obtain ⟨hc, hcs⟩ := List.forall_mem_cons.1 hcs
    exact ih (h.after hc) hcs

/-- A part that is not brought anew is where its career has led it. -/
theorem Holds.run (h : r.Holds name e) {cs : List (Change π)}
    (hcs : ∀ c ∈ cs, c.part? ≠ some e.part) :
    (r.run cs).Has e.part
      ((follow name (r.history cs)).map fun n => (n, e.grown (career name (r.history cs)))) := by
  induction cs generalizing r name e with
  | nil => exact ⟨rfl, h⟩
  | cons c cs ih =>
    obtain ⟨hc, hcs⟩ := List.forall_mem_cons.1 hcs
    have hstep := h.after hc
    dsimp only at hstep
    show ((r.after c).run cs).Has e.part _
    simp only [history, follow, career]
    cases hname : nameAfter name (c, c.isAccepted r) with
    | none =>
      rw [hname] at hstep
      exact Lacks.run hstep hcs
    | some n =>
      rw [hname] at hstep
      exact ih hstep.2 hcs

end

/-! ## Numbered parts -/

/-- The changes with their parts numbered from `i` on, so that parts that are alike can be told
apart. -/
def numbered (i : Nat) : List (Change π) → List (Change (Nat × π))
  | [] => []
  | c :: cs => c.map (i, ·) :: numbered (i + 1) cs

theorem map_snd_numbered (i : Nat) (cs : List (Change π)) :
    (numbered i cs).map (Change.map Prod.snd) = cs := by
  induction cs generalizing i with
  | nil => rfl
  | cons c cs ih =>
    rw [numbered, List.map_cons, ih]
    cases c <;> rfl

theorem numbered_append (i : Nat) (cs cs' : List (Change π)) :
    numbered i (cs ++ cs') = numbered i cs ++ numbered (i + cs.length) cs' := by
  induction cs generalizing i with
  | nil => rfl
  | cons c cs ih =>
    have hlength : i + 1 + cs.length = i + (c :: cs).length := by
      rw [List.length_cons]
      omega
    rw [List.cons_append, numbered, numbered, ih, hlength, List.cons_append]

theorem number_bounds {i : Nat} {cs : List (Change π)} {c : Change (Nat × π)} {p : Nat × π}
    (hc : c ∈ numbered i cs) (hp : c.part? = some p) : i ≤ p.1 ∧ p.1 < i + cs.length := by
  induction cs generalizing i with
  | nil => simp [numbered] at hc
  | cons c' cs ih =>
    rw [List.length_cons]
    rcases List.mem_cons.1 hc with rfl | hc
    · cases c' <;> cases hp
      show i ≤ i ∧ i < i + (cs.length + 1)
      omega
    · have hbounds := ih hc
      omega

/-- The parts of a registry have the numbers of the changes that brought them. -/
theorem number_lt_of_get?_run {cs : List (Change π)} {n : String} {e : Enrolled (Nat × π)}
    (h : ((empty : Registry (Nat × π)).run (numbered 0 cs)).get? n = some e) :
    e.part.1 < cs.length := by
  by_cases hlt : e.part.1 < cs.length
  · exact hlt
  · -- Nothing brings a part with such a number.
    have hempty : (empty : Registry (Nat × π)).Lacks e.part := by
      intro m e' he'
      simp [empty, get?, NameMap.get?, NameMap.empty] at he'
    refine absurd rfl (hempty.run (fun c hc hpart => ?_) n e h)
    have hbounds := number_bounds hc hpart
    omega

theorem run_numbered_append (cs cs' : List (Change π)) :
    (empty : Registry (Nat × π)).run (numbered 0 (cs ++ cs')) =
      ((empty : Registry (Nat × π)).run (numbered 0 cs)).run (numbered cs.length cs') := by
  rw [numbered_append, run, List.foldl_append, Nat.zero_add]
  rfl

/-- A part that has just been accepted is where it was brought to and nowhere else: the parts that
were there before it have smaller numbers. -/
theorem holds_added (cs : List (Change π)) {name : String} (part : π) (settings : PartSettings)
    (hname : name ≠ "") :
    ((empty : Registry (Nat × π)).run (numbered 0 (cs ++ [.add name part settings]))).Holds name
      ⟨(cs.length, part), settings, .idle⟩ := by
  rw [run_numbered_append]
  have hget : ∀ n, (Registry.run (empty.run (numbered 0 cs))
      (numbered cs.length [.add name part settings])).get? n = _ := fun n =>
    get?_after_add name n (cs.length, part) settings hname
  refine ⟨(hget name).trans (if_pos rfl), fun n e he hpart => ?_⟩
  rw [hget] at he
  split at he
  · next hn => exact hn
  · have hlt := number_lt_of_get?_run he
    rw [hpart] at hlt
    exact absurd hlt (Nat.lt_irrefl cs.length)

/-- The change is about the part that has a name: it addresses the name, brings a part to it, or is
about all parts. -/
def Change.Concerns (name : String) : Change π → Prop
  | .add n _ _ | .remove n | .start n _ | .stop n | .setTarget n _ | .setClear n _ => name = n
  | .rename old new => name = old ∨ name = new
  | .stopAll => True

/-- A change that is refused or about other parts leaves an entry as it is. -/
theorem get?_after_of_not_concerns {r : Registry π} {name : String} {c : Change π}
    (h : c.isAccepted r = false ∨ ¬ c.Concerns name) : (r.after c).get? name = r.get? name := by
  cases haccepted : c.isAccepted r with
  | false => rw [after_of_refused haccepted]
  | true =>
    have hc : ¬ c.Concerns name := h.resolve_left (by simp [haccepted])
    cases c with
    | add n part settings =>
      have hn : ¬ name = n := hc
      rw [get?_after_add n name part settings (isAccepted_add_iff.1 haccepted), if_neg hn]
    | remove n =>
      have hn : ¬ name = n := hc
      rw [get?_after_remove, if_neg hn]
    | rename old new =>
      obtain ⟨hnew, e, he⟩ := isAccepted_rename_iff.1 haccepted
      obtain ⟨hold, hother⟩ := not_or.1 hc
      rw [get?_after_rename old name hnew he, if_neg hother, if_neg hold]
    | start n time =>
      have hn : ¬ name = n := hc
      simp only [get?_after_start, if_neg hn, Option.map_id']
    | stop n =>
      have hn : ¬ name = n := hc
      simp only [get?_after_stop, if_neg hn, Option.map_id']
    | stopAll => exact absurd trivial hc
    | setTarget n target =>
      have hn : ¬ name = n := hc
      simp only [after, Change.on, setTarget, get?_settle_configure, if_neg hn, Option.map_id']
    | setClear n clear =>
      have hn : ¬ name = n := hc
      simp only [after, Change.on, setClear, get?_settle_configure, if_neg hn, Option.map_id']

/-- What is asked of the part that is under a name is granted: only a stop of a part that does not
run and a rename to the empty name are refused. Nor is another part kept from coming to the name. -/
structure Serves (r : Registry π) (name : String) (status : PartStatus) : Prop where
  start : ∀ time, (Change.start name time : Change π).isAccepted r = true
  stop : (Change.stop name : Change π).isAccepted r = true ↔ ∃ since, status = .running since
  rename : ∀ new, (Change.rename name new : Change π).isAccepted r = true ↔ new ≠ ""
  setTarget : ∀ target, (Change.setTarget name target : Change π).isAccepted r = true
  setClear : ∀ clear, (Change.setClear name clear : Change π).isAccepted r = true
  add : ∀ part settings, (Change.add name part settings).isAccepted r = true ↔ name ≠ ""
  arrive : ∀ old, (Change.rename old name : Change π).isAccepted r = true ↔
    name ≠ "" ∧ ∃ e, r.get? old = some e

theorem serves_of_get? {r : Registry π} {name : String} {e : Enrolled π}
    (h : r.get? name = some e) : r.Serves name e.status where
  start time := by
    simp only [Change.isAccepted, Change.on, Registry.start, h]
    rfl
  stop := by
    simp only [Change.isAccepted, Change.on, Registry.stop, h]
    cases e.status with
    | idle =>
      refine iff_of_false Bool.false_ne_true ?_
      rintro ⟨_, hsince⟩
      cases hsince
    | running since => exact iff_of_true rfl ⟨since, rfl⟩
  rename new := isAccepted_rename_iff.trans (and_iff_left ⟨e, h⟩)
  setTarget target := by
    simp only [Change.isAccepted, Change.on, Registry.setTarget, configure, h]
    rfl
  setClear clear := by
    simp only [Change.isAccepted, Change.on, Registry.setClear, configure, h]
    rfl
  add part settings := isAccepted_add_iff
  arrive old := isAccepted_rename_iff

/-! ## Parts keep their state -/

/-- A part that was accepted under a name, and any changes before and after. As long as it is not
taken away, it is under the name that its renames have led it to and no other; it runs since the
last event of its career if that is a start; and its settings are those it came with, changed by
what was addressed to it. What is asked of it under its name is granted, and what is refused or
about other parts leaves it alone. -/
theorem state_follows_part (before later : List (Change π)) (name : String) (part : π)
    (settings : PartSettings)
    (hadd : (Change.add name part settings).isAccepted (empty.run before) = true) :
    let i := before.length
    let r₀ := (empty : Registry (Nat × π)).run
      (numbered 0 (before ++ [.add name part settings]))
    let cs := numbered (i + 1) later
    let log := r₀.history cs
    let r := r₀.run cs
    r.mapParts Prod.snd = empty.run (before ++ .add name part settings :: later) ∧
    (∀ n, (∃ e, r.get? n = some e ∧ e.part = (i, part)) ↔ follow name log = some n) ∧
    ∀ n e, follow name log = some n → r.get? n = some e →
      (∀ time, e.status = .running time ↔ (marks name log).getLast? = some (.started time)) ∧
      e.settings = adjusted name settings log ∧ r.Serves n e.status ∧
      ∀ c : Change (Nat × π), c.isAccepted r = false ∨ ¬ c.Concerns n →
        (r.after c).get? n = some e := by
  intro i r₀ cs log r
  have hholds : r₀.Holds name ⟨(i, part), settings, .idle⟩ :=
    holds_added before part settings (isAccepted_add_iff.1 hadd)
  -- The parts that come after it have larger numbers.
  have hnew : ∀ c ∈ cs, c.part? ≠ some (i, part) := by
    intro c hc hpart
    have hle := (number_bounds hc hpart).1
    exact absurd hle (Nat.not_succ_le_self i)
  have hhas := hholds.run hnew
  refine ⟨?_, hhas.exists_get?_iff, fun n e hfollow he => ?_⟩
  · have hrun : r = (empty : Registry (Nat × π)).run
        (numbered 0 (before ++ .add name part settings :: later)) := by
      rw [List.append_cons, run_numbered_append, List.length_append]
      rfl
    rw [hrun, ← run_mapParts, map_snd_numbered]
    rfl
  · rw [hfollow] at hhas
    obtain rfl : e = _ := Option.some.inj (he.symm.trans hhas.2.here)
    exact ⟨Enrolled.grown_running_iff rfl _, Enrolled.settings_grown _ _, serves_of_get? he,
      fun c hc => (get?_after_of_not_concerns hc).trans he⟩

/-- Two parts that are alike swap their names, and the second one is started and stopped under the
name that the first one had. -/
theorem state_follows_part_swap :
    let before : List (Change Unit) := [.add "b" () {}]
    let later : List (Change Unit) :=
      [.start "a" 5, .rename "a" "swap", .rename "b" "a", .rename "swap" "b", .rename "b" "b",
        .start "a" 7, .stop "a", .rename "b" "", .setClear "b" true, .setClear "a" true,
        .setTarget "swap" .framebuffer]
    let r₀ := (empty : Registry (Nat × Unit)).run (numbered 0 (before ++ [.add "a" () {}]))
    let r := r₀.run (numbered 2 later)
    (Change.add "a" () {}).isAccepted (empty.run before) = true ∧
      r.mapParts Prod.snd = empty.run (before ++ .add "a" () {} :: later) ∧
      (∀ n, (∃ e, r.get? n = some e ∧ e.part = (1, ())) ↔ n = "b") ∧
      ∀ e, r.get? "b" = some e → e.status = .running 5 ∧ e.settings = { clear := true } ∧
        r.Serves "b" e.status := by
  intro before later r₀ r
  have hadd : (Change.add "a" () {}).isAccepted (empty.run before) = true :=
    isAccepted_add_iff.2 (by decide)
  have hfollow : follow "a" (r₀.history (numbered 2 later)) = some "b" := by decide +kernel
  have hmarks : marks "a" (r₀.history (numbered 2 later)) =
      [.added, .started 5] := by decide +kernel
  have hadjusted : adjusted "a" {} (r₀.history (numbered 2 later)) = { clear := true } := by
    decide +kernel
  obtain ⟨hparts, hname, hstate⟩ := state_follows_part before later "a" () {} hadd
  refine ⟨hadd, hparts, fun n => (hname n).trans ?_, fun e he => ?_⟩
  · show follow "a" (r₀.history (numbered 2 later)) = some n ↔ n = "b"
    rw [hfollow, Option.some_inj, eq_comm]
  · obtain ⟨hstatus, hsettings, hserves, -⟩ := hstate "b" e hfollow he
    refine ⟨(hstatus 5).2 ?_, hsettings.trans hadjusted, hserves⟩
    show (marks "a" (r₀.history (numbered 2 later))).getLast? = some (.started 5)
    rw [hmarks]
    rfl

end Registry

end DemoReel
