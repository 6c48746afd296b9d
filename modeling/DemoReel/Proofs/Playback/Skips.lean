import DemoReel.Proofs.Playback.Course
import DemoReel.Proofs.Playback.Standard
import DemoReel.Proofs.Graphics.Loads
import DemoReel.Proofs.Script.Unreadable

/-!
# Reports on skipped lines

While a script is played, the journal calls lines skipped as the reader passes them. Main statement:
after a drain it still calls skipped exactly the lines with a fault that the reader has passed, if
the handlers of the table do not call lines skipped themselves (`reports_course`), and those of the
standard table do not (`standard_keepsSkips`).
-/

namespace DemoReel

variable {π σ : Type}

/-! ## What drains keep -/

namespace Scheduler

section

variable {s : Scheduler π σ} {reader : Script.Reader} {time : Int} {done : Array Attempt}
  {w : World σ}

/-- What requests to the reader and commands keep, a drain keeps. -/
theorem courseFrom_keeps {t : CommandTable π σ} {assets : Assets}
    {I : Script.Reader → World σ → Prop}
    (hnext : ∀ {r r' w u journal}, I r w → r.next time w.journal = (u, r', journal) →
      I r' (w.withJournal journal))
    (hcommand : ∀ {r c st st' result}, I r st.world →
      t.dispatch c assets time st = (result, st') →
      I r (st'.world.note (verdictEvent time c result)))
    (ht : s.table = t) (ha : s.assets = assets) (h : I reader w) :
    ∃ reader', (s.courseFrom reader time done w).2.1.reader = some reader' ∧
      I reader' (s.courseFrom reader time done w).2.2 := by
  fun_induction courseFrom s reader time done w with
  | case1 s reader done w e reader' journal heq => exact ⟨reader', rfl, hnext h heq⟩
  | case2 s reader done w reader' journal heq => exact ⟨reader', rfl, hnext h heq⟩
  | case3 s reader done w reader' journal heq => exact ⟨reader', rfl, hnext h heq⟩
  | case4 s reader done w c reader' journal heq result stage hd s' w' x hends =>
    rw [ht, ha] at hd
    have hstage : I reader' (s.stage (w.withJournal journal)).world := hnext h heq
    exact ⟨reader', rfl, hcommand hstage hd⟩
  | case5 s reader done w c reader' journal heq result stage hd s' w' x hends _ ih =>
    rw [ht, ha] at hd
    have hstage : I reader' (s.stage (w.withJournal journal)).world := hnext h heq
    exact ih ht ha (hcommand hstage hd)

theorem course_keeps {t : CommandTable π σ} {assets : Assets}
    {I : Script.Reader → World σ → Prop}
    (hnext : ∀ {r r' w u journal}, I r w → r.next time w.journal = (u, r', journal) →
      I r' (w.withJournal journal))
    (hcommand : ∀ {r c st st' result}, I r st.world →
      t.dispatch c assets time st = (result, st') →
      I r (st'.world.note (verdictEvent time c result)))
    (ht : s.table = t) (ha : s.assets = assets) (hreader : s.reader = some reader)
    (h : I reader w) :
    ∃ reader', (s.course time w).2.1.reader = some reader' ∧ I reader' (s.course time w).2.2 := by
  unfold course
  split
  · exact ⟨reader, hreader, h⟩
  · rw [hreader]
    exact courseFrom_keeps hnext hcommand ht ha h

end

end Scheduler

/-! ## Tables that do not call lines skipped -/

/-- The handlers have no say in which lines the journal calls skipped. -/
def CommandTable.KeepsSkips (t : CommandTable π σ) : Prop :=
  ∀ c assets time st, Script.skippedLines (t.dispatch c assets time st).2.world.journal =
    Script.skippedLines st.world.journal

/-- A drain is worth no report that a line was skipped, but for those of the reader. -/
theorem Scheduler.skippedLine?_verdictEvent (time : Int) (c : Command)
    (result : Except CommandError Verdict) : (verdictEvent time c result).skippedLine? = none := by
  cases result with
  | error why => rfl
  | ok verdict => cases verdict <;> rfl

theorem Script.skippedLines_noteAll {w : World σ} {es : List Event}
    (h : ∀ e ∈ es, e.skippedLine? = none) :
    skippedLines (w.noteAll es).journal = skippedLines w.journal := by
  induction es generalizing w with
  | nil => rfl
  | cons e es ih =>
    obtain ⟨he, hes⟩ := List.forall_mem_cons.1 h
    exact (ih hes).trans (skippedLines_push he w.journal)

theorem Registry.Request.skippedLine?_eq_none {r : Registry π} {time : Int}
    {u : Registry.Update π} {request : Registry.Request} (h : request.on time r = .ok u) :
    ∀ e ∈ u.events, e.skippedLine? = none := by
  cases request with
  | start name =>
    simp only [on, Registry.start] at h
    split at h
    · cases h
    · cases h
      dsimp only
      split <;> simp [Event.skippedLine?]
  | stop name =>
    simp only [on, Registry.stop] at h
    split at h
    · cases h
    · split at h <;> cases h
      simp
  | rename name new =>
    simp only [on, Registry.rename] at h
    split at h
    · cases h
    · split at h
      · cases h
      · split at h
        · cases h
          simp
        · split at h <;> cases h <;> simp [Event.skippedLine?]
  | configure name f =>
    simp only [on, Registry.configure] at h
    split at h <;> cases h
    simp

/-- The standard table keeps to that, if loads do. -/
theorem CommandTable.standard_keepsSkips [Graphics σ]
    (hσ : ∀ js, World.KeptByLoads fun w : World σ => Script.skippedLines w.journal = js) :
    (standard : CommandTable π σ).KeepsSkips := by
  intro c assets time st
  rw [dispatch_eq_carryOut]
  cases c.deed with
  | refuse why => rfl
  | finish => rfl
  | ask request =>
    simp only [Deed.carryOut, Handler.updating]
    split
    · rfl
    · next u hu => exact Script.skippedLines_noteAll (Registry.Request.skippedLine?_eq_none hu)
  | load c =>
    have hkept := Effect.ofArgs_keeps (hσ _) (w := st.world) rfl assets c.args
    simp only [Deed.carryOut, Handler.effect]
    split
    · next heq =>
      rw [heq] at hkept
      exact hkept
    · next heq =>
      rw [heq] at hkept
      exact (Script.skippedLines_push rfl _).trans hkept

/-! ## One drain -/

/-- A drain of lines that are text warns of each fault in the lines that it passes. -/
theorem Scheduler.reports_course {s : Scheduler π σ} {w : World σ} {reader : Script.Reader}
    (ht : s.table.KeepsSkips) {ls : List (Option String)} (hls : ∀ l ∈ ls, l.isSome = true)
    {j : Journal} (hreader : s.reader = some reader) (h : reader.Reports ls j w.journal)
    (time : Int) :
    ∃ reader', (s.course time w).2.1.reader = some reader' ∧
      reader'.Reports ls j (s.course time w).2.2.journal := by
  refine course_keeps (I := fun r w => r.Reports ls j w.journal) (fun hr heq => hr.next hls heq)
    (fun {r c st st' result} hr heq => ?_) rfl rfl hreader h
  -- Neither what a command does nor the report on it calls a line skipped.
  have hkept := ht c s.assets time st
  rw [heq] at hkept
  exact hr.congr_journal
    ((Script.skippedLines_push (skippedLine?_verdictEvent time c result) _).trans hkept)

end DemoReel
