import DemoReel.Proofs.Playback.Session

/-!
# How far a script has been played

Main statement: of two runs of one script, the one that was drained as late as the other has tried
at least as much (`Plays.past_eq_of_prefix`).
-/

namespace DemoReel

variable {π σ : Type}

theorem EndsAtLast.exists_endsReel {tried : List Attempt} (h : EndsAtLast tried) :
    ∃ x ∈ tried, x.endsReel = true := by
  obtain ⟨front, last, rfl, hlast, -⟩ := h
  exact ⟨last, by simp, hlast⟩

/-- The status that follows from what has been tried of the commands `cs`. -/
def statusAfter (cs : List Command) (tried : List Attempt) : DrainStatus :=
  if tried.any Attempt.endsReel then .ended
  else if tried.map (·.command) = cs then .exhausted
  else .pending

namespace Tells

variable {cs : List Command} {tried : List Attempt} {time time' : Int}
  {status status' : DrainStatus}

theorem eq_statusAfter (h : Tells cs tried time status) : status = statusAfter cs tried := by
  cases status with
  | pending =>
    obtain ⟨⟨c, rest, hcs, -⟩, hopen⟩ := h
    have hany : tried.any Attempt.endsReel = false := by simpa using hopen
    have hleft : tried.map (·.command) ≠ cs := by
      intro heq
      rw [heq] at hcs
      exact absurd (congrArg List.length hcs) (by simp)
    simp [statusAfter, hany, hleft]
  | exhausted =>
    obtain ⟨hcs, hopen⟩ := h
    have hany : tried.any Attempt.endsReel = false := by simpa using hopen
    simp [statusAfter, hany, hcs]
  | ended =>
    have hany : tried.any Attempt.endsReel = true := List.any_eq_true.2 h.exists_endsReel
    simp [statusAfter, hany]

/-- What has been tried decides the status, whatever the time. -/
theorem unique (h : Tells cs tried time status) (h' : Tells cs tried time' status') :
    status = status' := h.eq_statusAfter.trans h'.eq_statusAfter.symm

/-- Nothing more can have been tried when a drain has stopped, except for what is due later. -/
theorem eq_of_prefix (h : Tells cs tried time status) {more : List Attempt}
    (hmore : tried <+: more) (hcs : more.map (·.command) <+: cs)
    (hdue : ∀ x ∈ more, x.command.due ≤ time)
    (hopen : ∀ x ∈ more.dropLast, x.endsReel = false) : tried = more := by
  obtain ⟨rest, rfl⟩ := hmore
  cases rest with
  | nil => exact (List.append_nil tried).symm
  | cons x rest =>
    exfalso
    cases status with
    | pending =>
      -- The next command is the one that was due later.
      obtain ⟨⟨c, later, hsplit, hearly⟩, -⟩ := h
      rw [hsplit, List.map_append, List.prefix_append_right_inj, List.map_cons,
        List.cons_prefix_cons] at hcs
      have hx := hdue x (by simp)
      rw [hcs.1] at hx
      omega
    | exhausted =>
      -- There is no next command.
      have hlength := hcs.length_le
      rw [← h.1] at hlength
      simp only [List.length_map, List.length_append, List.length_cons] at hlength
      omega
    | ended =>
      -- The next command would stand behind one that has ended the reel.
      obtain ⟨front, last, rfl, hlast, -⟩ := h
      have hmem : last ∈ ((front ++ [last]) ++ x :: rest).dropLast := by
        rw [List.dropLast_append_of_ne_nil (by simp)]
        simp
      rw [hopen last hmem] at hlast
      exact absurd hlast (by simp)

end Tells

/-- The latest of some drains was at `time`. -/
def UpTo (time : Int) (ds : List Drain) : Prop :=
  (∃ d ∈ ds, d.time = time) ∧ ∀ d ∈ ds, d.time ≤ time

theorem UpTo.ne_nil {time : Int} {ds : List Drain} (h : UpTo time ds) : ds ≠ [] := by
  obtain ⟨d, hd, -⟩ := h.1
  exact List.ne_nil_of_mem hd

namespace Plays

variable {t : CommandTable π σ} {assets : Assets} {cs left : List Command} {st₀ st : Stage π σ}
  {ds : List Drain} {ended : Bool} {time : Int}

theorem answers (h : Plays t assets cs st₀ ds left ended st) {d : Drain} (hd : d ∈ ds) :
    ∃ before after, ds = before ++ d :: after ∧ Answers cs (past (before ++ [d])) d := by
  obtain ⟨before, after, hsplit⟩ := List.append_of_mem hd
  exact ⟨before, after, hsplit, (h.inOrder before d after hsplit).1⟩

/-- The report of the last drain. -/
theorem last (h : Plays t assets cs st₀ ds left ended st) (hds : ds ≠ []) :
    ∃ front d status, ds = front ++ [d] ∧
      d.report = .ok ⟨d.attempts.map Attempt.record, status⟩ ∧
      Tells cs (past ds) d.time status := by
  obtain ⟨front, d, rfl⟩ : ∃ front d, ds = front ++ [d] :=
    ⟨ds.dropLast, ds.getLast hds, (List.dropLast_concat_getLast hds).symm⟩
  obtain ⟨status, hreport, htells⟩ := (h.inOrder front d [] rfl).1.reported
  exact ⟨front, d, status, rfl, hreport, htells⟩

theorem due_le (h : Plays t assets cs st₀ ds left ended st) (htime : ∀ d ∈ ds, d.time ≤ time) :
    ∀ x ∈ past ds, x.command.due ≤ time := by
  intro x hx
  obtain ⟨d, hd, hxd⟩ := List.mem_flatMap.1 hx
  obtain ⟨before, after, -, hanswers⟩ := h.answers hd
  exact Int.le_trans (hanswers.due x hxd) (htime d hd)

theorem open_dropLast (h : Plays t assets cs st₀ ds left ended st) :
    ∀ x ∈ (past ds).dropLast, x.endsReel = false := by
  intro x hx
  cases ended with
  | true =>
    obtain ⟨front, last, heq, -, hfront⟩ := h.mark.1 rfl
    rw [heq, List.dropLast_concat] at hx
    exact hfront x hx
  | false => exact h.mark.2 rfl x (List.dropLast_subset _ hx)

theorem ended_eq (h : Plays t assets cs st₀ ds left ended st) :
    ended = (past ds).any Attempt.endsReel := by
  cases ended with
  | true =>
    obtain ⟨x, hx, hends⟩ := (h.mark.1 rfl).exists_endsReel
    exact (List.any_eq_true.2 ⟨x, hx, hends⟩).symm
  | false =>
    refine (List.any_eq_false.2 fun x hx => ?_).symm
    simp [h.mark.2 rfl x hx]

/-- No other run that is as late has tried more. -/
theorem past_eq_of_prefix (h : Plays t assets cs st₀ ds left ended st)
    (htime : ∃ d ∈ ds, d.time = time) {more : List Attempt} (hmore : past ds <+: more)
    (hcs : more.map (·.command) <+: cs) (hdue : ∀ x ∈ more, x.command.due ≤ time)
    (hopen : ∀ x ∈ more.dropLast, x.endsReel = false) : past ds = more := by
  obtain ⟨d, hd, rfl⟩ := htime
  obtain ⟨before, after, hsplit, hanswers⟩ := h.answers hd
  obtain ⟨status, -, htells⟩ := hanswers.reported
  -- Already when the drain at `time` was over, nothing more could have been tried.
  have hfirst : past (before ++ [d]) <+: past ds :=
    ⟨past after, by rw [← past_append, hsplit, List.append_assoc, List.singleton_append]⟩
  have heq : past (before ++ [d]) = more :=
    htells.eq_of_prefix (hfirst.trans hmore) hcs hdue hopen
  exact hmore.eq_of_length_le (heq ▸ hfirst.length_le)

end Plays

/-! ## Sessions -/

namespace Session

variable {t : CommandTable π σ} {content : String} {st₀ : Stage π σ} {ss : Session π σ}

/-- What the last drain told. -/
def status? (ss : Session π σ) : Option DrainStatus :=
  ss.drains.getLast?.bind fun d => d.report.toOption.map (·.status)

theorem Follows.status?_eq (h : ss.Follows t content st₀) (hds : ss.drains ≠ []) :
    ∃ time status, ss.status? = some status ∧
      Tells (Script.commandsOf content) (past ss.drains) time status := by
  obtain ⟨left, reader, -, -, hplays⟩ := h.plays
  obtain ⟨front, d, status, hsplit, hreport, htells⟩ := hplays.last hds
  refine ⟨d.time, status, ?_, htells⟩
  rw [status?, hsplit, List.getLast?_concat, Option.bind_some, hreport]
  rfl

theorem Follows.drain_all (h : ss.Follows t content st₀) (times : List Int) :
    (ss.run (times.map .drain)).Follows t content st₀ := by
  induction times generalizing ss with
  | nil => exact h
  | cons time times ih => exact ih (h.drain time)

theorem times_drain_all (ss : Session π σ) (times : List Int) :
    (ss.run (times.map .drain)).drains.map (·.time) = ss.drains.map (·.time) ++ times := by
  induction times generalizing ss with
  | nil => exact (List.append_nil _).symm
  | cons time times ih =>
    show ((ss.perform (.drain time)).run (times.map .drain)).drains.map (·.time) = _
    rw [ih]
    simp [perform]

/-- A script that was drained at several times is drained up to the latest of them. -/
theorem upTo_drain_all {ss : Session π σ} {times : List Int} {time : Int}
    (hss : ss.drains = []) (hmem : time ∈ times) (hmax : ∀ t ∈ times, t ≤ time) :
    UpTo time (ss.run (times.map .drain)).drains := by
  have htimes : (ss.run (times.map .drain)).drains.map (·.time) = times := by
    rw [times_drain_all, hss]
    rfl
  constructor
  · rw [← htimes] at hmem
    exact List.mem_map.1 hmem
  · intro d hd
    refine hmax d.time ?_
    rw [← htimes]
    exact List.mem_map_of_mem hd

theorem upTo_drain {ss : Session π σ} (hss : ss.drains = []) (time : Int) :
    UpTo time (ss.run [.drain time]).drains := by
  refine upTo_drain_all hss (List.mem_singleton_self time) fun t ht => ?_
  exact Int.le_of_eq (List.mem_singleton.1 ht)

end Session

end DemoReel
