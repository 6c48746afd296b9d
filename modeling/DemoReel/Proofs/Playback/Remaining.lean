import DemoReel.Proofs.Playback.Session
import DemoReel.Proofs.Playback.Standard

/-!
# What is left of a script

A scheduler that plays a text can always read on. Main statements: a drain takes commands from the
front of what is left and tells why it stops, without an error (`Left.drains`); and where the
commands alone decide which of them ends the reel, what a drain tells and leaves follows from the
text and the time, whatever has become of the parts (`SamePlace.drain`).
-/

namespace DemoReel

variable {π σ : Type}

/-! ## Tables that go by the command -/

/-- `ends` tells which commands end the reel, wherever they are carried out. -/
def CommandTable.EndsBy (t : CommandTable π σ) (ends : Command → Bool) : Prop :=
  ∀ c assets time st, Attempt.endsReel ⟨c, (t.dispatch c assets time st).1⟩ = ends c

theorem CommandTable.standard_endsBy [Graphics σ] :
    (standard : CommandTable π σ).EndsBy fun c => c.deed.ends := by
  intro c assets time st
  show Attempt.endsReel _ = c.deed.ends
  rw [dispatch_eq_carryOut]
  cases c.deed with
  | refuse why => rfl
  | finish => rfl
  | ask request =>
    simp only [Deed.carryOut, Handler.updating]
    split <;> rfl
  | load c =>
    simp only [Deed.carryOut, Handler.effect]
    split <;> rfl

theorem Carried.endsReel_eq {t : CommandTable π σ} {ends : Command → Bool} (ht : t.EndsBy ends)
    {assets : Assets} {st st' : Stage π σ} {tried : List (Int × Attempt)}
    (h : Carried t assets st tried st') :
    ∀ x ∈ tried, x.2.endsReel = ends x.2.command := by
  induction h with
  | done => simp
  | @next st st₁ st₂ time c result tried journal now later ih =>
    refine List.forall_mem_cons.2 ⟨?_, ih⟩
    have hnow := ht c assets time (st.withJournal journal)
    rwa [now] at hnow

/-- What a drain at `time` tells, and what it leaves of some commands. -/
def cue (ends : Command → Bool) (time : Int) : List Command → DrainStatus × List Command
  | [] => (.exhausted, [])
  | c :: cs =>
    if time < c.due then (.pending, c :: cs)
    else if ends c then (.ended, cs)
    else cue ends time cs

theorem cue_append {ends : Command → Bool} {time : Int} {front : List Command}
    (h : ∀ c ∈ front, c.due ≤ time ∧ ends c = false) (rest : List Command) :
    cue ends time (front ++ rest) = cue ends time rest := by
  induction front with
  | nil => rfl
  | cons c front ih =>
    obtain ⟨⟨hdue, hends⟩, hfront⟩ := List.forall_mem_cons.1 h
    simp only [List.cons_append, cue, if_neg (Int.not_lt.2 hdue), hends, Bool.false_eq_true,
      if_false]
    exact ih hfront

theorem Stops.cue_eq {ends : Command → Bool} {time : Int} {tried : List Attempt}
    {left : List Command} {status : DrainStatus} (h : Stops time tried left (.ok status))
    (hdue : ∀ x ∈ tried, x.command.due ≤ time)
    (hends : ∀ x ∈ tried, x.endsReel = ends x.command) :
    cue ends time (tried.map (·.command) ++ left) = (status, left) := by
  -- Commands that are due and do not end the reel are passed.
  have hpassed : ∀ {front : List Attempt}, front ⊆ tried → (∀ x ∈ front, x.endsReel = false) →
      ∀ c ∈ front.map (·.command), c.due ≤ time ∧ ends c = false := by
    intro front hfront hopen c hc
    obtain ⟨x, hx, rfl⟩ := List.mem_map.1 hc
    exact ⟨hdue x (hfront hx), (hends x (hfront hx)).symm.trans (hopen x hx)⟩
  cases h with
  | @pending c rest first early open' =>
    rw [cue_append (hpassed (List.Subset.refl tried) open'), first, cue, if_pos early]
  | exhausted empty open' =>
    rw [cue_append (hpassed (List.Subset.refl tried) open'), empty, cue]
  | @ended front last split ends' open' =>
    subst split
    have hlast : last ∈ front ++ [last] := by simp
    rw [List.map_append, List.append_assoc,
      cue_append (hpassed (List.subset_append_left front [last]) open')]
    simp [cue, Int.not_lt.2 (hdue last hlast), ← hends last hlast, ends']

namespace Scheduler

/-! ## One drain -/

/-- The commands `cs` are left of the script. -/
def Left (s : Scheduler π σ) (cs : List Command) : Prop :=
  ∃ reader, s.reader = some reader ∧ reader.Holds (cs.map .command)

/-- What a drain would tell, if nothing hinders it from reading the script. -/
def drainStatus? (time : Int) (s : Scheduler π σ) (w : World σ) : Option DrainStatus :=
  (s.drain time w).1.toOption.map (·.status)

/-- A drain at `time` that leaves `left` of the commands `cs`, the scheduler `s'` and the world
`w'`. After the end of the reel it leaves everything as it is. -/
structure Drains (time : Int) (cs : List Command) (s : Scheduler π σ) (w : World σ)
    (attempts : List Attempt) (status : DrainStatus) (left : List Command) (s' : Scheduler π σ)
    (w' : World σ) : Prop where
  course : s.course time w = (⟨attempts, .ok status⟩, s', w')
  remains : s'.Left left
  setting : SameSetting s s'
  carried : Carried s.table s.assets (s.stage w) (attempts.map (time, ·)) (s'.stage w')
  ended : s'.ended = (status == .ended)
  afterEnd : s.ended = true → status = .ended ∧ left = cs
  beforeEnd : s.ended = false → Drained s.table s.assets time cs (s.stage w) ⟨attempts, .ok status⟩
    left (s'.stage w')

/-- A script that is a text can be drained without an error. -/
theorem Left.drains {s : Scheduler π σ} {cs : List Command} (h : s.Left cs) (time : Int)
    (w : World σ) : ∃ attempts status left s' w',
      Drains time cs s w attempts status left s' w' := by
  obtain ⟨reader, hreader, hholds⟩ := h
  cases hended : s.ended with
  | true =>
    refine ⟨[], .ended, cs, s, w, ?_, ⟨reader, hreader, hholds⟩, ⟨rfl, rfl, rfl, rfl⟩,
      .done (s.stage w) w.journal, hended, fun _ => ⟨rfl, rfl⟩, fun hopen => ?_⟩
    · simp [course, hended]
    · simp [hended] at hopen
  | false =>
    obtain ⟨new, left, reader', stop, s', w', heq, hdrained, hreader', hleft, hended', hsame⟩ :=
      s.courseFrom_drained hholds hended time #[] w
    have hnone : ∀ x ∈ ([] : List Attempt), x.endsReel = false := by simp
    obtain ⟨status, rfl, -, hany⟩ := hdrained.stops.tells hnone hdrained.split
    refine ⟨new, status, left, s', w', ?_, ⟨reader', hreader', hleft⟩, hsame, hdrained.carried,
      hended'.trans hany, fun hend => ?_, fun _ => hdrained⟩
    · simp only [course, hended, hreader]
      exact heq
    · simp [hended] at hend

namespace Drains

variable {time : Int} {cs left : List Command} {s s' : Scheduler π σ} {w w' : World σ}
  {attempts : List Attempt} {status : DrainStatus}

theorem drain_eq (h : Drains time cs s w attempts status left s' w') :
    s.drain time w = (.ok ⟨attempts.map Attempt.record, status⟩, s', w') := by
  simp [drain, h.course, Course.report, Except.map]

theorem drainStatus?_eq (h : Drains time cs s w attempts status left s' w') :
    s.drainStatus? time w = some status := by
  simp [drainStatus?, h.drain_eq, Except.toOption]

/-- Commands are carried out in the order of the script, and none too early. -/
theorem split (h : Drains time cs s w attempts status left s' w') :
    cs = attempts.map (·.command) ++ left ∧ ∀ x ∈ attempts, x.command.due ≤ time := by
  cases hended : s.ended with
  | false =>
    have hdrained := h.beforeEnd hended
    exact ⟨hdrained.split, hdrained.due⟩
  | true =>
    have hcourse := h.course
    simp only [Scheduler.course, hended, if_true, Prod.mk.injEq, Course.mk.injEq] at hcourse
    obtain ⟨⟨rfl, -⟩, -⟩ := hcourse
    exact ⟨(h.afterEnd hended).2.symm, by simp⟩

/-- Before the end of the reel, the text and the time alone decide what a drain tells and leaves. -/
theorem cue_eq (h : Drains time cs s w attempts status left s' w') (hs : s.ended = false)
    {ends : Command → Bool} (ht : s.table.EndsBy ends) : cue ends time cs = (status, left) := by
  have hdrained := h.beforeEnd hs
  rw [hdrained.split]
  refine hdrained.stops.cue_eq hdrained.due fun x hx => ?_
  exact hdrained.carried.endsReel_eq ht (time, x) (List.mem_map_of_mem hx)

end Drains

/-! ## The same place in a script -/

/-- Two schedulers have come to the same place in a script. -/
structure SamePlace (s s' : Scheduler π σ) : Prop where
  ended : s.ended = s'.ended
  left : ∃ cs, s.Left cs ∧ s'.Left cs

/-- If the commands alone decide which of them ends the reel, drains at one time tell the same and
come to the same place, however different the parts, the effects and the worlds are. -/
theorem SamePlace.drain {s s' : Scheduler π σ} {ends : Command → Bool} (h : SamePlace s s')
    (ht : s.table.EndsBy ends) (ht' : s'.table.EndsBy ends) (time : Int) (w w' : World σ) :
    s.drainStatus? time w = s'.drainStatus? time w' ∧
      SamePlace (s.drain time w).2.1 (s'.drain time w').2.1 := by
  obtain ⟨hended, cs, hleft, hleft'⟩ := h
  obtain ⟨attempts, status, left, s₁, w₁, hdrains⟩ := hleft.drains time w
  obtain ⟨attempts', status', left', s₁', w₁', hdrains'⟩ := hleft'.drains time w'
  have hsame : status = status' ∧ left = left' := by
    cases hs : s.ended with
    | true =>
      obtain ⟨rfl, rfl⟩ := hdrains.afterEnd hs
      obtain ⟨rfl, rfl⟩ := hdrains'.afterEnd (hended ▸ hs)
      exact ⟨rfl, rfl⟩
    | false =>
      have hcue := (hdrains.cue_eq hs ht).symm.trans (hdrains'.cue_eq (hended ▸ hs) ht')
      exact Prod.mk.inj hcue
  obtain ⟨rfl, rfl⟩ := hsame
  rw [hdrains.drainStatus?_eq, hdrains'.drainStatus?_eq, hdrains.drain_eq, hdrains'.drain_eq]
  exact ⟨rfl, hdrains.ended.trans hdrains'.ended.symm, left, hdrains.remains, hdrains'.remains⟩

end Scheduler

end DemoReel
