import DemoReel.Proofs.Playback.Remaining
import DemoReel.Proofs.Playback.Replay
import DemoReel.Proofs.Playback.Skips

/-!
# Playing scripts with lines that are not text

A malformed line is skipped with a warning, but a line that is not text makes the drain fail that
comes to it, along with the records of the commands before it. Main statement: a script is played
as it should be exactly as long as no drain comes to such a line (`undeterred_iff`).
-/

namespace DemoReel

variable {π σ : Type}

namespace Scheduler

/-! ## One drain -/

/-- The scheduler with more lines behind those that are left of its script. -/
def extend (more : List (Option String)) (s : Scheduler π σ) : Scheduler π σ :=
  { s with reader := s.reader.map (·.extend more) }

section

variable {s : Scheduler π σ} {reader : Script.Reader} {time : Int} {done : Array Attempt}
  {w : World σ} {status : DrainStatus}

/-- A drain reads from the reader that it is given. -/
theorem courseFrom_with_reader (r : Option Script.Reader) :
    { s with reader := r }.courseFrom reader time done w = s.courseFrom reader time done w := by
  rw [courseFrom, courseFrom]
  rfl

/-- A drain that does not come to the end of a script does not notice what is behind it. -/
theorem courseFrom_extend (h : (s.courseFrom reader time done w).1.stop = .ok status)
    (hstatus : status ≠ .exhausted) (more : List (Option String)) :
    s.courseFrom (reader.extend more) time done w =
      ((s.courseFrom reader time done w).1, (s.courseFrom reader time done w).2.1.extend more,
        (s.courseFrom reader time done w).2.2) := by
  fun_induction courseFrom s reader time done w with
  | case1 => cases h
  | case2 s reader done w reader' journal hnext =>
    exact courseFrom_notYet (Script.Reader.next_extend hnext (by simp) more)
  | case3 =>
    cases h
    exact absurd rfl hstatus
  | case4 s reader done w c reader' journal hnext result stage hd s' w' x hends =>
    have hmore := Script.Reader.next_extend hnext (by simp) more
    exact (courseFrom_command done hmore hd).trans (if_pos hends)
  | case5 s reader done w c reader' journal hnext result stage hd s' w' x hends _ ih =>
    have hmore := Script.Reader.next_extend hnext (by simp) more
    have hcourse := courseFrom_command done hmore hd
    have hlater : s.courseFrom (reader.extend more) time done w =
        s'.courseFrom (reader'.extend more) time (done.push x) w' :=
      hcourse.trans ((if_neg hends).trans (s'.courseFrom_with_reader _))
    rw [hlater]
    exact ih h

/-- A drain that would come to the end of a script fails if a line that is not text is there. -/
theorem courseFrom_extend_unreadable
    (h : (s.courseFrom reader time done w).1.stop = .ok .exhausted) (rest : List (Option String)) :
    ∃ e, (s.courseFrom (reader.extend (none :: rest)) time done w).1.stop = .error e := by
  fun_induction courseFrom s reader time done w with
  | case1 => cases h
  | case2 => cases h
  | case3 s reader done w reader' journal hnext =>
    obtain ⟨e, reader'', herror⟩ := Script.Reader.next_extend_unreadable hnext rest
    exact ⟨e, by rw [courseFrom_error herror]⟩
  | case4 => cases h
  | case5 s reader done w c reader' journal hnext result stage hd s' w' x hends _ ih =>
    have hmore := Script.Reader.next_extend hnext (by simp) (none :: rest)
    have hcourse := courseFrom_command done hmore hd
    have hlater : s.courseFrom (reader.extend (none :: rest)) time done w =
        s'.courseFrom (reader'.extend (none :: rest)) time (done.push x) w' :=
      hcourse.trans ((if_neg hends).trans (s'.courseFrom_with_reader _))
    rw [hlater]
    exact ih h

theorem course_extend (h : (s.course time w).1.stop = .ok status) (hstatus : status ≠ .exhausted)
    (more : List (Option String)) :
    (s.extend more).course time w =
      ((s.course time w).1, (s.course time w).2.1.extend more, (s.course time w).2.2) := by
  unfold course at h ⊢
  have hended : (s.extend more).ended = s.ended := rfl
  rw [hended]
  split
  · rfl
  · next hopen =>
    rw [if_neg hopen] at h
    cases hreader : s.reader with
    | none =>
      rw [hreader] at h
      cases h
      exact absurd rfl hstatus
    | some reader =>
      rw [hreader] at h
      have hmore : (s.extend more).reader = some (reader.extend more) := by
        simp only [extend, hreader, Option.map_some]
      rw [hmore]
      exact (s.courseFrom_with_reader _).trans (courseFrom_extend h hstatus more)

theorem course_extend_unreadable (h : (s.course time w).1.stop = .ok .exhausted)
    (hreader : s.reader = some reader) (rest : List (Option String)) :
    ∃ e, ((s.extend (none :: rest)).course time w).1.stop = .error e := by
  unfold course at h ⊢
  have hended : (s.extend (none :: rest)).ended = s.ended := rfl
  have hmore : (s.extend (none :: rest)).reader = some (reader.extend (none :: rest)) := by
    simp only [extend, hreader, Option.map_some]
  rw [hended, hmore]
  split at h
  · cases h
  · next hopen =>
    rw [hreader] at h
    obtain ⟨e, herror⟩ := courseFrom_extend_unreadable h rest
    refine ⟨e, ?_⟩
    rw [if_neg hopen]
    exact (congrArg (·.1.stop) (s.courseFrom_with_reader _)).trans herror

end

end Scheduler

/-! ## Many drains -/

/-- The drain has come to the end of the script. -/
def Drain.Exhausts (d : Drain) : Prop := ∃ records, d.report = .ok ⟨records, .exhausted⟩

theorem Course.report_of_error {c : Course} {e : ScriptError} (h : c.stop = .error e) :
    c.report = .error e := by
  rw [report, h]
  rfl

theorem Course.exhausts_iff {c : Course} {time : Int} :
    (⟨time, c.report, c.attempts⟩ : Drain).Exhausts ↔ c.stop = .ok .exhausted := by
  obtain ⟨attempts, stop⟩ := c
  cases stop with
  | error e => exact ⟨fun ⟨_, h⟩ => (nomatch h), fun h => (nomatch h)⟩
  | ok status =>
    constructor
    · rintro ⟨records, h⟩
      cases h
      rfl
    · rintro ⟨⟩
      exact ⟨_, rfl⟩

/-- Drains that do not come to the end of a script are in order for every longer one. -/
theorem InOrder.append {cs : List Command} {ds : List Drain} (h : InOrder cs ds)
    (hopen : ∀ d ∈ ds, ¬ d.Exhausts) (more : List Command) : InOrder (cs ++ more) ds := by
  intro before d after hds
  obtain ⟨⟨hfront, hdue, status, hreport, htells⟩, hover⟩ := h before d after hds
  refine ⟨⟨hfront.trans (List.prefix_append cs more), hdue, status, hreport, ?_⟩, hover⟩
  cases status with
  | pending =>
    obtain ⟨⟨c, rest, hcs, hearly⟩, hopen'⟩ := htells
    exact ⟨⟨c, rest ++ more, by rw [hcs, List.append_assoc, List.cons_append], hearly⟩, hopen'⟩
  | exhausted => exact absurd ⟨_, hreport⟩ (hopen d (by simp [hds]))
  | ended => exact htells

namespace Session

/-- A script is opened, wherever it comes from. -/
def loaded (source : Script.Source) (s : Scheduler π σ) (w : World σ) : Session π σ :=
  let (_, s, w) := s.load source w
  ⟨s, w, []⟩

/-- The session that reads the lines `ls` instead. -/
def reading (ls : List (Option String)) (ss : Session π σ) : Session π σ :=
  { ss with scheduler := { ss.scheduler with reader := some (.ofLines ls) } }

def extend (more : List (Option String)) (ss : Session π σ) : Session π σ :=
  { ss with scheduler := ss.scheduler.extend more }

variable {t : CommandTable π σ} {assets : Assets} {cs : List Command} {st₀ : Stage π σ}
  {ss : Session π σ}

/-- The session plays a script that holds the commands `cs`. -/
structure Tracks (t : CommandTable π σ) (assets : Assets) (cs : List Command) (st₀ : Stage π σ)
    (ss : Session π σ) : Prop where
  table : ss.scheduler.table = t
  base : ss.scheduler.assets = assets
  plays : ∃ left reader, ss.scheduler.reader = some reader ∧ reader.Holds (left.map .command) ∧
    Plays t assets cs st₀ ss.drains left ss.scheduler.ended ss.stage

theorem Tracks.drain (h : ss.Tracks t assets cs st₀) (time : Int) :
    (ss.perform (.drain time)).Tracks t assets cs st₀ := by
  obtain ⟨left, reader, hreader, hholds, hplays⟩ := h.plays
  obtain ⟨hsame, hrest⟩ := plays_drain h.table h.base hreader hholds hplays time
  exact ⟨hsame.table.trans h.table, hsame.assets.trans h.base, hrest⟩

theorem Tracks.drain_all (h : ss.Tracks t assets cs st₀) (times : List Int) :
    (ss.run (times.map .drain)).Tracks t assets cs st₀ := by
  induction times generalizing ss with
  | nil => exact h
  | cons time times ih => exact ih (h.drain time)

theorem Tracks.exists_status (h : ss.Tracks t assets cs st₀) (time : Int) :
    ∃ status, (ss.scheduler.course time ss.world).1.stop = .ok status := by
  obtain ⟨left, reader, hreader, hholds, -⟩ := h.plays
  have hleft : ss.scheduler.Left left := ⟨reader, hreader, hholds⟩
  obtain ⟨attempts, status, left', s', w', hdrains⟩ := hleft.drains time ss.world
  exact ⟨status, by rw [hdrains.course]⟩

theorem drains_prefix_run (ss : Session π σ) (times : List Int) :
    ss.drains <+: (ss.run (times.map .drain)).drains := by
  induction times generalizing ss with
  | nil => exact List.prefix_rfl
  | cons time times ih => exact (List.prefix_append _ _).trans (ih (ss.perform (.drain time)))

theorem perform_drain_extend {time : Int} {status : DrainStatus}
    (h : (ss.scheduler.course time ss.world).1.stop = .ok status) (hstatus : status ≠ .exhausted)
    (more : List (Option String)) :
    (ss.extend more).perform (.drain time) = (ss.perform (.drain time)).extend more := by
  have hmore : (ss.extend more).scheduler.course time (ss.extend more).world = _ :=
    Scheduler.course_extend h hstatus more
  rw [perform_drain_of_course hmore, perform_drain_of_course rfl]
  rfl

/-- Drains that do not come to the end of a script do not notice what is behind it. -/
theorem Tracks.run_extend (h : ss.Tracks t assets cs st₀) {times : List Int}
    (hopen : ∀ d ∈ (ss.run (times.map .drain)).drains, ¬ d.Exhausts)
    (more : List (Option String)) :
    (ss.extend more).run (times.map .drain) = (ss.run (times.map .drain)).extend more := by
  induction times generalizing ss with
  | nil => rfl
  | cons time times ih =>
    obtain ⟨status, hstop⟩ := h.exists_status time
    have hstatus : status ≠ .exhausted := by
      rintro rfl
      have hlast : (⟨time, _, _⟩ : Drain) ∈ (ss.perform (.drain time)).drains :=
        List.mem_append_right _ (List.mem_singleton_self _)
      exact hopen _ ((drains_prefix_run _ times).subset hlast) (Course.exhausts_iff.2 hstop)
    show ((ss.extend more).perform (.drain time)).run (times.map .drain) = _
    rw [perform_drain_extend hstop hstatus]
    exact ih (h.drain time) hopen

/-- The first drain that would come to the end of a script fails if a line that is not text is
there. -/
theorem Tracks.exists_error (h : ss.Tracks t assets cs st₀) {times : List Int}
    (hnone : ∀ d ∈ ss.drains, ¬ d.Exhausts)
    (hsome : ∃ d ∈ (ss.run (times.map .drain)).drains, d.Exhausts)
    (rest : List (Option String)) :
    ∃ d ∈ ((ss.extend (none :: rest)).run (times.map .drain)).drains, ∃ e,
      d.report = .error e := by
  induction times generalizing ss with
  | nil =>
    obtain ⟨d, hd, hexhausts⟩ := hsome
    exact absurd hexhausts (hnone d hd)
  | cons time times ih =>
    obtain ⟨status, hstop⟩ := h.exists_status time
    by_cases hstatus : status = .exhausted
    · obtain ⟨left, reader, hreader, -⟩ := h.plays
      rw [hstatus] at hstop
      obtain ⟨e, herror⟩ := Scheduler.course_extend_unreadable hstop hreader rest
      have hlast : (⟨time, _, _⟩ : Drain) ∈
          ((ss.extend (none :: rest)).perform (.drain time)).drains :=
        List.mem_append_right _ (List.mem_singleton_self _)
      exact ⟨_, (drains_prefix_run _ times).subset hlast, e, Course.report_of_error herror⟩
    · show ∃ d ∈ (((ss.extend (none :: rest)).perform (.drain time)).run (times.map .drain)).drains,
        _
      rw [perform_drain_extend hstop hstatus]
      refine ih (h.drain time) (fun d hd => ?_) hsome
      rcases List.mem_append.1 hd with hd | hd
      · exact hnone d hd
      · rw [List.mem_singleton.1 hd]
        intro hexhausts
        exact hstatus (Except.ok.inj (hstop.symm.trans (Course.exhausts_iff.1 hexhausts)))

/-- Where the commands alone decide which of them ends the reel, the end of a script is come to by a
drain that is late enough for all its commands, if none of them ends the reel. -/
theorem Tracks.exhausts_iff (h : ss.Tracks t assets cs st₀) {times : List Int}
    (hss : ss.drains = []) {ends : Command → Bool} (ht : t.EndsBy ends) :
    (∃ d ∈ (ss.run (times.map .drain)).drains, d.Exhausts) ↔
      ∃ time ∈ times, ∀ c ∈ cs, c.due ≤ time ∧ ends c = false := by
  obtain ⟨left, reader, -, -, hplays⟩ := (h.drain_all times).plays
  obtain ⟨timed, hpast, -, hcarried⟩ := hplays.carried
  have hends : ∀ x ∈ past (ss.run (times.map .drain)).drains, x.endsReel = ends x.command := by
    intro x hx
    rw [← hpast] at hx
    obtain ⟨y, hy, rfl⟩ := List.mem_map.1 hx
    exact hcarried.endsReel_eq ht y hy
  have htimes : (ss.run (times.map .drain)).drains.map (·.time) = times := by
    rw [times_drain_all, hss]
    rfl
  constructor
  · rintro ⟨d, hd, records, hexhausts⟩
    obtain ⟨before, after, hsplit, hanswers⟩ := hplays.answers hd
    obtain ⟨status, hreport, htells⟩ := hanswers.reported
    rw [hexhausts] at hreport
    cases hreport
    obtain ⟨hcs, hopen⟩ := htells
    -- The latest drain is late enough for all commands.
    have hsome : times.max?.isSome = true :=
      List.isSome_max?_of_mem (htimes ▸ List.mem_map_of_mem hd)
    obtain ⟨time, hlatest⟩ := Option.isSome_iff_exists.1 hsome
    obtain ⟨hmem, hmax⟩ := List.max?_eq_some_iff.1 hlatest
    have hdue : ∀ x ∈ past (ss.run (times.map .drain)).drains, x.command.due ≤ time :=
      hplays.due_le fun d hd => hmax d.time (htimes ▸ List.mem_map_of_mem hd)
    refine ⟨time, hmem, fun c hc => ?_⟩
    rw [← hcs] at hc
    obtain ⟨x, hx, rfl⟩ := List.mem_map.1 hc
    have hx' : x ∈ past (ss.run (times.map .drain)).drains := by
      rw [hsplit, List.append_cons, past_append]
      exact List.mem_append_left _ hx
    exact ⟨hdue x hx', (hends x hx').symm.trans (hopen x hx)⟩
  · rintro ⟨time, htime, hcs⟩
    obtain ⟨d, hd, rfl⟩ := List.mem_map.1 (htimes.symm ▸ htime)
    obtain ⟨before, after, hsplit, hanswers⟩ := hplays.answers hd
    obtain ⟨status, hreport, htells⟩ := hanswers.reported
    have hcommand : ∀ x ∈ past (before ++ [d]), x.command ∈ cs := fun x hx =>
      hanswers.front.subset (List.mem_map_of_mem hx)
    cases status with
    | pending =>
      obtain ⟨⟨c, rest, hrest, hearly⟩, -⟩ := htells
      have hdue := (hcs c (by simp [hrest])).1
      omega
    | exhausted => exact ⟨d, hd, _, hreport⟩
    | ended =>
      obtain ⟨x, hx, hxends⟩ := htells.exists_endsReel
      have hx' : x ∈ past (ss.run (times.map .drain)).drains := by
        rw [hsplit, List.append_cons, past_append]
        exact List.mem_append_left _ hx
      rw [hends x hx', (hcs x.command (hcommand x hx)).2] at hxends
      cases hxends

/-- The same from the other side: some command stops each of the drains. -/
theorem Tracks.none_exhausts_iff (h : ss.Tracks t assets cs st₀) {times : List Int}
    (hss : ss.drains = []) {ends : Command → Bool} (ht : t.EndsBy ends) :
    (∀ d ∈ (ss.run (times.map .drain)).drains, ¬ d.Exhausts) ↔
      ∀ time ∈ times, ∃ c ∈ cs, time < c.due ∨ ends c = true := by
  have hexhausts : (∃ d ∈ (ss.run (times.map .drain)).drains, d.Exhausts) ↔
      ∃ time ∈ times, ∀ c ∈ cs, c.due ≤ time ∧ ends c = false := h.exhausts_iff hss ht
  constructor
  · intro hopen time htime
    refine Classical.byContradiction fun hno => ?_
    have hall : ∀ c ∈ cs, c.due ≤ time ∧ ends c = false := fun c hc =>
      ⟨Int.not_lt.1 fun hlate => hno ⟨c, hc, .inl hlate⟩,
        Bool.eq_false_iff.2 fun hends => hno ⟨c, hc, .inr hends⟩⟩
    obtain ⟨d, hd, hlast⟩ := hexhausts.2 ⟨time, htime, hall⟩
    exact hopen d hd hlast
  · intro hstops d hd hlast
    obtain ⟨time, htime, hall⟩ := hexhausts.1 ⟨d, hd, hlast⟩
    obtain ⟨c, hc, hstop⟩ := hstops time htime
    obtain ⟨hdue, hends⟩ := hall c hc
    rcases hstop with hlate | hend
    · omega
    · rw [hends] at hend
      cases hend

/-- Drains of lines that are text warn of each fault in the lines that they pass. -/
theorem Tracks.reports (h : ss.Tracks t assets cs st₀) (ht : t.KeepsSkips)
    {ls : List (Option String)} (hls : ∀ l ∈ ls, l.isSome = true) {j : Journal}
    {reader : Script.Reader} (hreader : ss.scheduler.reader = some reader)
    (hreports : reader.Reports ls j ss.world.journal) (times : List Int) :
    ∃ reader', (ss.run (times.map .drain)).scheduler.reader = some reader' ∧
      reader'.Reports ls j (ss.run (times.map .drain)).world.journal := by
  induction times generalizing ss reader with
  | nil => exact ⟨reader, hreader, hreports⟩
  | cons time times ih =>
    obtain ⟨reader', hreader', hreports'⟩ :=
      Scheduler.reports_course (h.table ▸ ht) hls hreader hreports time
    exact ih (h.drain time) hreader' hreports'

/-- The script of some lines is played as it should be: every drain succeeds, and the commands of
all lines are carried out in order when they are due. Of the lines that the reader has passed since
the journal was `j`, those that hold neither a command nor nothing are warned of, each once. -/
structure Undeterred (ls : List (Option String)) (j : Journal) (ss : Session π σ) : Prop where
  inOrder : InOrder (Script.commandsIn ls) ss.drains
  warned : ss.scheduler.table.KeepsSkips → ∃ reader, ss.scheduler.reader = some reader ∧
    reader.Reports ls j ss.world.journal

theorem extend_nil (ss : Session π σ) : ss.extend [] = ss := by
  have hreader : ss.scheduler.reader.map (·.extend []) = ss.scheduler.reader := by
    cases ss.scheduler.reader with
    | none => rfl
    | some reader => exact congrArg some reader.extend_nil
  show { ss with scheduler := { ss.scheduler with reader := _ } } = _
  rw [hreader]

/-- Lines of text with something behind them are played as they should be, unless what is behind
them is come to. -/
theorem Tracks.undeterred_extend_iff {good bad : List (Option String)} {j : Journal}
    (h : ss.Tracks t assets (Script.commandsIn good) st₀) (hss : ss.drains = [])
    (hgood : ∀ l ∈ good, l.isSome = true) (hreader : ss.scheduler.reader = some (.ofLines good))
    (hj : Script.skippedLines ss.world.journal = Script.skippedLines j)
    (hbad : bad = [] ∨ ∃ rest, bad = none :: rest) (times : List Int) :
    ((ss.extend bad).run (times.map .drain)).Undeterred (good ++ bad) j ↔
      bad = [] ∨ ∀ d ∈ (ss.run (times.map .drain)).drains, ¬ d.Exhausts := by
  obtain ⟨left, -, -, -, hplays⟩ := (h.drain_all times).plays
  constructor
  · intro hund
    refine hbad.imp_right fun ⟨rest, hrest⟩ d hd hexhausts => ?_
    subst hrest
    have hnone : ∀ d ∈ ss.drains, ¬ d.Exhausts := by simp [hss]
    obtain ⟨d', hd', e, herror⟩ := h.exists_error hnone ⟨d, hd, hexhausts⟩ rest
    obtain ⟨before, after, hsplit⟩ := List.append_of_mem hd'
    obtain ⟨status, hreport, -⟩ := (hund.inOrder before d' after hsplit).1.reported
    rw [herror] at hreport
    cases hreport
  · intro hopen
    have hrun : (ss.extend bad).run (times.map .drain) =
        (ss.run (times.map .drain)).extend bad := by
      rcases hopen with rfl | hopen
      · rw [extend_nil, extend_nil]
      · exact h.run_extend hopen bad
    have horder : InOrder (Script.commandsIn (good ++ bad))
        (ss.run (times.map .drain)).drains := by
      rcases hopen with rfl | hopen
      · rw [List.append_nil]
        exact hplays.inOrder
      · obtain ⟨more, hmore⟩ := Script.exists_commandsIn_append good bad
        rw [hmore]
        exact hplays.inOrder.append hopen more
    rw [hrun]
    refine ⟨horder, fun ht => ?_⟩
    have hkeeps : t.KeepsSkips := (h.drain_all times).table ▸ ht
    obtain ⟨reader, hreader', hreports⟩ := h.reports hkeeps hgood hreader
      (.congr_journal (.ofLines good ss.world.journal) rfl) times
    refine ⟨reader.extend bad, congrArg (Option.map (Script.Reader.extend bad)) hreader', ?_⟩
    obtain ⟨read, rest, hls, hfeed, hcount, hskipped⟩ := hreports.extend bad
    exact ⟨read, rest, hls, hfeed, hcount, hj ▸ hskipped⟩

theorem loaded_file (s : Scheduler π σ) (w : World σ) {path : Path} {location : Location}
    {content : ByteArray} (h : w.disk.resolve path = .ok (location, .file content)) :
    loaded (.file path) s w =
      ⟨{ s with
          clock := .new
          source := some (.file path)
          reader := some (.ofLines (Text.decodedLines content.toList))
          assets := ⟨path.parent?⟩
          ended := false }, w.note .scriptLoaded, []⟩ := by
  simp only [loaded, Scheduler.load, Script.Source.reader, h]
  rfl

theorem tracks_reading {ls : List (Option String)} (hls : ∀ l ∈ ls, l.isSome = true)
    (hdrains : ss.drains = []) (hopen : ss.scheduler.ended = false) :
    (ss.reading ls).Tracks ss.scheduler.table ss.scheduler.assets (Script.commandsIn ls)
      ss.stage := by
  refine ⟨rfl, rfl, Script.commandsIn ls, .ofLines ls, rfl, ?_, ?_⟩
  · have hholds := Script.Reader.holds_ofLines ls
    rwa [Script.queue_eq_commands hls] at hholds
  · show Plays _ _ _ _ ss.drains _ ss.scheduler.ended _
    rw [hdrains, hopen]
    exact .opened

/-- A file is played as it should be exactly as long as the drains do not come to a line that is
not text, which they do when they would come to the end of the lines before it. -/
theorem undeterred_iff (s : Scheduler π σ) (w : World σ) {path : Path} {location : Location}
    {content : ByteArray} (hfile : w.disk.resolve path = .ok (location, .file content))
    (times : List Int) :
    let ls := Text.decodedLines content.toList
    let first := loaded (.file path) s w
    let ss := first.run (times.map .drain)
    let front := (first.reading (Script.readable ls)).run (times.map .drain)
    (ss.Undeterred ls w.journal ↔
      (∀ l ∈ ls, l.isSome = true) ∨ ∀ d ∈ front.drains, ¬ d.Exhausts) ∧
    ∀ ends, s.table.EndsBy ends → (ss.Undeterred ls w.journal ↔
      (∀ l ∈ ls, l.isSome = true) ∨
        ∀ time ∈ times, ∃ c ∈ Script.commandsIn (Script.readable ls),
          time < c.due ∨ ends c = true) := by
  intro ls first ss front
  let good := Script.readable ls
  let bad := Script.beyond ls
  have hls : good ++ bad = ls := Script.readable_append_beyond ls
  have hopened := loaded_file s w hfile
  have hdrains : first.drains = [] := by rw [show first = _ from hopened]
  have hended : first.scheduler.ended = false := by rw [show first = _ from hopened]
  have htable : first.scheduler.table = s.table := by rw [show first = _ from hopened]
  have hskipped : Script.skippedLines first.world.journal = Script.skippedLines w.journal := by
    rw [show first = _ from hopened]
    exact Script.skippedLines_push rfl w.journal
  have hfirst : (first.reading good).extend bad = first := by
    show first.reading (good ++ bad) = first
    rw [hls, show first = _ from hopened]
    rfl
  have htext : ∀ l ∈ good, l.isSome = true := Script.isSome_of_mem_readable
  have hgood := tracks_reading htext hdrains hended
  have hbad : bad = [] ∨ ∃ rest, bad = none :: rest := by
    by_cases hnil : bad = []
    · exact .inl hnil
    · exact .inr (Script.exists_beyond_eq hnil)
  have hmain : ss.Undeterred ls w.journal ↔
      (∀ l ∈ ls, l.isSome = true) ∨ ∀ d ∈ front.drains, ¬ d.Exhausts := by
    have hiff := hgood.undeterred_extend_iff hdrains htext rfl hskipped hbad times
    rw [hfirst, hls] at hiff
    exact hiff.trans (or_congr Script.beyond_eq_nil_iff Iff.rfl)
  refine ⟨hmain, fun ends ht => hmain.trans (or_congr Iff.rfl ?_)⟩
  exact hgood.none_exhausts_iff hdrains (htable ▸ ht)

/-- A directory that holds a script. -/
def withScript (content : ByteArray) : World Catalog :=
  { gfx := ⟨[]⟩, disk := { entries := [(["demo.script"], .file content)] } }

/-- A part is started, a line has a bad timestamp, the reel ends; a comment behind that is not in
UTF-8. -/
def commentBehind : ByteArray :=
  "0 START_PART a\nten END\n10 END\n; caf".toUTF8.push 0xE9

/-- A comment is not in UTF-8; behind it a part is started and the reel ends. -/
def commentInFront : ByteArray :=
  "; caf".toUTF8.push 0xE9 ++ "\n0 START_PART a\n10 END\n".toUTF8

theorem undeterred_comment_behind :
    let w := withScript commentBehind
    w.disk.resolve ⟨"demo.script"⟩ = .ok (["demo.script"], .file commentBehind) ∧
      onePart.table.KeepsSkips ∧
      ((loaded (.file ⟨"demo.script"⟩) onePart w).run ([0, 30].map .drain)).Undeterred
        (Text.decodedLines commentBehind.toList) w.journal := by
  intro w
  have hfile : w.disk.resolve ⟨"demo.script"⟩ = .ok (["demo.script"], .file commentBehind) := rfl
  have hcommands : Script.commandsIn
      (Script.readable (Text.decodedLines commentBehind.toList)) =
        [⟨0, .startPart, ["a"], 1⟩, ⟨10, .finish, [], 3⟩] := by decide +kernel
  have hends := (undeterred_iff onePart w hfile [0, 30]).2 _ CommandTable.standard_endsBy
  refine ⟨hfile, CommandTable.standard_keepsSkips fun js w c _ hw => hw, hends.2 (.inr ?_)⟩
  intro time _
  rw [hcommands]
  exact ⟨⟨10, .finish, [], 3⟩, by simp, .inr rfl⟩

/-- What a drain failed of. -/
def errorOf? (d : Drain) : Option ScriptError :=
  match d.report with
  | .error e => some e
  | .ok _ => none

/-- A comment that is not in UTF-8 is an error and the part is not started. -/
theorem not_undeterred_comment_in_front :
    let w := withScript commentInFront
    let ss := (loaded (.file ⟨"demo.script"⟩) onePart w).run [.drain 0]
    w.disk.resolve ⟨"demo.script"⟩ = .ok (["demo.script"], .file commentInFront) ∧
      ss.drains.map errorOf? = [some (.reading 1 .notUtf8)] ∧
      ss.scheduler.registry.runningNames = [] ∧
      ¬ ss.Undeterred (Text.decodedLines commentInFront.toList) w.journal := by
  intro w ss
  have herrors : ss.drains.map errorOf? = [some (.reading 1 .notUtf8)] := by decide +kernel
  refine ⟨rfl, herrors, by decide +kernel, fun hund => ?_⟩
  obtain ⟨d, hdrains, herror⟩ := List.map_eq_singleton_iff.1 herrors
  obtain ⟨status, hreport, -⟩ := (hund.inOrder [] d [] hdrains).1.reported
  rw [errorOf?, hreport] at herror
  cases herror

end Session

end DemoReel
