import DemoReel.Proofs.Playback.Replay

/-!
# Scripts that cannot be opened

A script that cannot be opened leaves everything as it was, with one exception: going back moves the
clock before it opens the script again. Main statement: a failed opening can be noticed exactly if
it was to move the clock (`intact_iff`).
-/

namespace DemoReel

variable {π σ : Type}

/-! ## Drains do not look at the clock -/

namespace Scheduler

theorem courseFrom_with_clock (s : Scheduler π σ) (reader : Script.Reader) (time : Int)
    (done : Array Attempt) (w : World σ) (clock : Clock Int64) :
    { s with clock }.courseFrom reader time done w =
      ((s.courseFrom reader time done w).1, { (s.courseFrom reader time done w).2.1 with clock },
        (s.courseFrom reader time done w).2.2) := by
  fun_induction courseFrom s reader time done w with
  | case1 s reader done w e reader' journal hnext => exact courseFrom_error hnext
  | case2 s reader done w reader' journal hnext => exact courseFrom_notYet hnext
  | case3 s reader done w reader' journal hnext => exact courseFrom_endOfScript hnext
  | case4 s reader done w c reader' journal hnext result stage hd s' w' x hends =>
    have hcourse := courseFrom_command (s := { s with clock }) done hnext hd
    exact hcourse.trans (if_pos hends)
  | case5 s reader done w c reader' journal hnext result stage hd s' w' x hends _ ih =>
    have hcourse := courseFrom_command (s := { s with clock }) done hnext hd
    exact (hcourse.trans (if_neg hends)).trans ih

theorem course_with_clock (s : Scheduler π σ) (time : Int) (w : World σ) (clock : Clock Int64) :
    { s with clock }.course time w =
      ((s.course time w).1, { (s.course time w).2.1 with clock }, (s.course time w).2.2) := by
  obtain ⟨table, _, registry, timeline, source, reader, assets, ended⟩ := s
  cases ended with
  | true => rfl
  | false =>
    cases reader with
    | none => rfl
    | some reader => exact courseFrom_with_clock _ reader time #[] w clock

end Scheduler

namespace Session

/-- The session with another clock. -/
def withClock (clock : Clock Int64) (ss : Session π σ) : Session π σ :=
  { ss with scheduler := { ss.scheduler with clock } }

theorem perform_drain_withClock (ss : Session π σ) (clock : Clock Int64) (time : Int) :
    (ss.withClock clock).perform (.drain time) = (ss.perform (.drain time)).withClock clock := by
  have hcourse : (ss.withClock clock).scheduler.course time (ss.withClock clock).world = _ :=
    ss.scheduler.course_with_clock time ss.world clock
  rw [perform_drain_of_course hcourse, perform_drain_of_course rfl]
  rfl

theorem run_drains_withClock (ss : Session π σ) (clock : Clock Int64) (times : List Int) :
    (ss.withClock clock).run (times.map .drain) = (ss.run (times.map .drain)).withClock clock := by
  induction times generalizing ss with
  | nil => rfl
  | cons time times ih =>
    show ((ss.withClock clock).perform (.drain time)).run (times.map .drain) = _
    rw [perform_drain_withClock]
    exact ih (ss.perform (.drain time))

end Session

/-- What drains at some times come to, one after the other. -/
def Scheduler.drainsAt (s : Scheduler π σ) (w : World σ) (times : List Int) : List Drain :=
  ((⟨s, w, []⟩ : Session π σ).run (times.map .drain)).drains

theorem Scheduler.drainsAt_with_clock (s : Scheduler π σ) (w : World σ) (clock : Clock Int64)
    (times : List Int) : { s with clock }.drainsAt w times = s.drainsAt w times := by
  have hrun := congrArg Session.drains (Session.run_drains_withClock ⟨s, w, []⟩ clock times)
  exact hrun

/-! ## Clocks that go back -/

namespace Clock

open Number.Wrapping

theorem seekBack_zero (c : Clock Int64) : c.seekBack 0 = c := by
  cases c with
  | running origin => exact congrArg running (add_zero origin)
  | paused value => exact congrArg paused (sub_zero value)
  | reset value => exact congrArg reset (sub_zero value)

theorem seekBack_eq_self_iff {c : Clock Int64} {ms : Int64} : c.seekBack ms = c ↔ ms = 0 := by
  constructor
  · intro h
    have helapsed := c.elapsed_seekBack 0 ms
    rw [h] at helapsed
    exact sub_eq_self.1 helapsed.symm
  · rintro rfl
    exact c.seekBack_zero

end Clock

/-! ## Openings -/

/-- A request to open a script, for the first time or again. -/
inductive Opening where
  | load (source : Script.Source)
  | restart (reading : Int64)
  | seekBack (ms reading : Int64)

namespace Opening

def on (s : Scheduler π σ) (w : World σ) :
    Opening → Except ScriptError Unit × Scheduler π σ × World σ
  | .load source => s.load source w
  | .restart reading => s.restart reading w
  | .seekBack ms reading => s.seekBack ms reading w

/-- How far the clock is to go back. -/
def back : Opening → Int64
  | .seekBack ms _ => ms
  | .load _ | .restart _ => 0

end Opening

/-- A source that fails to open has a path that leads nowhere. -/
theorem Script.Source.exists_of_reader_error {source : Script.Source} {d : Disk} {e : ScriptError}
    (h : source.reader d = .error e) :
    ∃ path why, e = .opening path why ∧ d.resolve path = .error why := by
  cases source with
  | text content => cases h
  | file path =>
    simp only [reader] at h
    split at h
    · next why heq =>
      cases h
      exact ⟨path, why, rfl, heq⟩
    · cases h
    · cases h

namespace Scheduler

variable {s s' : Scheduler π σ} {w w' : World σ} {e : ScriptError}

/-- Nothing that can be observed has changed. -/
structure Intact (s : Scheduler π σ) (w : World σ) (s' : Scheduler π σ) (w' : World σ) : Prop where
  clock : s'.clock = s.clock
  now : ∀ reading, s'.now reading = s.now reading
  registry : s'.registry = s.registry
  timeline : s'.timeline = s.timeline
  assets : s'.assets = s.assets
  ended : s'.ended = s.ended
  /-- Later drains report and try the same. -/
  drains : ∀ times, s'.drainsAt w' times = s.drainsAt w times

theorem load_error {source : Script.Source} (h : s.load source w = (.error e, s', w')) :
    source.reader w.disk = .error e ∧ s' = s ∧ w' = w := by
  unfold load at h
  split at h
  · next heq =>
    cases h
    exact ⟨heq, rfl, rfl⟩
  · cases h

theorem restart_error {reading : Int64} (h : s.restart reading w = (.error e, s', w')) :
    (∃ source, s.source = some source ∧ source.reader w.disk = .error e) ∧ s' = s ∧ w' = w := by
  unfold restart at h
  split at h
  · cases h
  · next source hsource =>
    split at h
    · next heq =>
      cases h
      exact ⟨⟨source, hsource, heq⟩, rfl, rfl⟩
    · cases h

/-- What a failed opening leaves behind. -/
theorem on_error {o : Opening} (h : o.on s w = (.error e, s', w')) :
    (∃ source : Script.Source, source.reader w.disk = .error e) ∧
      s' = { s with clock := s.clock.seekBack o.back } ∧ w' = w := by
  have hzero : s = { s with clock := s.clock.seekBack 0 } := by rw [Clock.seekBack_zero]
  cases o with
  | load source =>
    obtain ⟨herror, rfl, rfl⟩ := load_error h
    exact ⟨⟨source, herror⟩, hzero, rfl⟩
  | restart reading =>
    obtain ⟨⟨source, -, herror⟩, rfl, rfl⟩ := restart_error h
    exact ⟨⟨source, herror⟩, hzero, rfl⟩
  | seekBack ms reading =>
    obtain ⟨⟨source, -, herror⟩, hs, rfl⟩ := restart_error h
    exact ⟨⟨source, herror⟩, hs, rfl⟩

/-- A script fails to open because its path leads nowhere. The world is left alone then, and so is
all of the scheduler but the clock, which has gone back as far as it was to; later drains answer as
they would have done. So nothing can be observed exactly if the clock was not to go back. -/
theorem intact_iff (o : Opening) (s : Scheduler π σ) (w : World σ)
    (h : o.on s w = (.error e, s', w')) :
    (∃ path why, e = .opening path why ∧ w.disk.resolve path = .error why) ∧
      s' = { s with clock := s.clock.seekBack o.back } ∧ w' = w ∧
      (∀ times, s'.drainsAt w' times = s.drainsAt w times) ∧
      (s.Intact w s' w' ↔ o.back = 0) := by
  obtain ⟨⟨source, herror⟩, rfl, rfl⟩ := on_error h
  have hdrains := s.drainsAt_with_clock w' (s.clock.seekBack o.back)
  refine ⟨Script.Source.exists_of_reader_error herror, rfl, rfl, hdrains, ?_, ?_⟩
  · intro hintact
    exact Clock.seekBack_eq_self_iff.1 hintact.clock
  · intro hback
    have hclock : s.clock.seekBack o.back = s.clock := Clock.seekBack_eq_self_iff.2 hback
    exact ⟨hclock, fun reading =>
      congrArg (fun c => (Clock.elapsed reading c).toInt) hclock, rfl, rfl, rfl, rfl,
      hdrains⟩

/-- A scheduler that has come to `START_PART a` of a file, with its clock at 20. -/
def fromFile : Scheduler Unit Catalog :=
  let disk : Disk :=
    { entries := [(["demo.script"], .file "0 START_PART a\n100 END\n".toUTF8)] }
  let (_, s, w) := Session.onePart.load (.file ⟨"demo.script"⟩) { gfx := ⟨[]⟩, disk }
  ((s.seekForward 20).drain 20 w).2.1

theorem source_fromFile : fromFile.source = some (.file ⟨"demo.script"⟩) := by decide +kernel

theorem restart_noFiles {s : Scheduler Unit Catalog} {path : Path} (reading : Int64)
    (hsource : s.source = some (.file path))
    (hpath : Session.noFiles.disk.resolve path = .error .noSuchFile) :
    s.restart reading Session.noFiles =
      (.error (.opening path .noSuchFile), s, Session.noFiles) := by
  simp only [restart, hsource, Script.Source.reader, hpath]

/-- To restart a script that is gone by then does no harm. -/
theorem intact_restart :
    (Opening.restart 0).on fromFile Session.noFiles =
      (.error (.opening ⟨"demo.script"⟩ .noSuchFile), fromFile, Session.noFiles) ∧
      fromFile.Intact Session.noFiles fromFile Session.noFiles := by
  have herror := restart_noFiles 0 source_fromFile rfl
  exact ⟨herror, (intact_iff (.restart 0) fromFile Session.noFiles herror).2.2.2.2.2 rfl⟩

/-- To go back in a script that is gone by then fails, and the clock goes from 20 back to 5 all the
same. -/
theorem not_intact_seekBack :
    let s' : Scheduler Unit Catalog := { fromFile with clock := fromFile.clock.seekBack 15 }
    (Opening.seekBack 15 0).on fromFile Session.noFiles =
        (.error (.opening ⟨"demo.script"⟩ .noSuchFile), s', Session.noFiles) ∧
      fromFile.now 0 = 20 ∧ s'.now 0 = 5 ∧
      ¬ fromFile.Intact Session.noFiles s' Session.noFiles := by
  intro s'
  have hbefore : fromFile.now 0 = 20 := by decide +kernel
  have hafter : s'.now 0 = 5 := by decide +kernel
  refine ⟨restart_noFiles 0 source_fromFile rfl, hbefore, hafter, fun hintact => ?_⟩
  have hnow := hintact.now 0
  rw [hbefore, hafter] at hnow
  exact absurd hnow (by decide)

end Scheduler

end DemoReel
