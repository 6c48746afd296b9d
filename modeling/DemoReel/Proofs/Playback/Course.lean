import DemoReel.Playback.Scheduler
import DemoReel.Proofs.Script.Queue

/-!
# The course of a drain

What a drain makes of the commands that a script has left. Main statement: it carries out commands
from the front of them, none before its time, and stops for one of three reasons
(`courseFrom_drained`).
-/

namespace DemoReel

variable {π σ : Type}

/-- The stage with another journal. -/
def Stage.withJournal (st : Stage π σ) (journal : Journal) : Stage π σ :=
  { st with world := st.world.withJournal journal }

/-- Commands are carried out one after the other, each at a time of its own. The journal may be
written to between them. -/
inductive Carried (t : CommandTable π σ) (assets : Assets) :
    Stage π σ → List (Int × Attempt) → Stage π σ → Prop where
  | done (st : Stage π σ) (journal : Journal) : Carried t assets st [] (st.withJournal journal)
  | next {st st₁ st₂ : Stage π σ} {time : Int} {c : Command}
      {result : Except CommandError Verdict} {tried : List (Int × Attempt)} (journal : Journal)
      (now : t.dispatch c assets time (st.withJournal journal) = (result, st₁))
      (later : Carried t assets st₁ tried st₂) :
      Carried t assets st ((time, ⟨c, result⟩) :: tried) st₂

namespace Carried

variable {t : CommandTable π σ} {assets : Assets} {st st₁ st₂ : Stage π σ}
  {tried tried' : List (Int × Attempt)}

theorem of_withJournal {journal : Journal}
    (h : Carried t assets (st.withJournal journal) tried st₁) : Carried t assets st tried st₁ := by
  cases h with
  | done _ j => exact .done st j
  | next j now later => exact .next j now later

theorem append (h : Carried t assets st tried st₁) (h' : Carried t assets st₁ tried' st₂) :
    Carried t assets st (tried ++ tried') st₂ := by
  induction h with
  | done st j => exact h'.of_withJournal
  | next j now _ ih => exact .next j now (ih h')

end Carried

/-- Why a drain at `time` that has carried out `tried` and left `left` has stopped. -/
inductive Stops (time : Int) (tried : List Attempt) (left : List Command) :
    Except ScriptError DrainStatus → Prop where
  /-- The next command is due later. -/
  | pending {c : Command} {rest : List Command} (first : left = c :: rest) (early : time < c.due)
      (open' : ∀ x ∈ tried, x.endsReel = false) : Stops time tried left (.ok .pending)
  /-- Nothing is left. -/
  | exhausted (empty : left = []) (open' : ∀ x ∈ tried, x.endsReel = false) :
      Stops time tried left (.ok .exhausted)
  /-- The last command has ended the reel, and it alone. -/
  | ended {front : List Attempt} {last : Attempt} (split : tried = front ++ [last])
      (ends : last.endsReel = true) (open' : ∀ x ∈ front, x.endsReel = false) :
      Stops time tried left (.ok .ended)

/-- What a drain at `time` makes of the commands `cs`: it takes some from their front, none of them
too early, carries them out and leaves the others. -/
structure Drained (t : CommandTable π σ) (assets : Assets) (time : Int) (cs : List Command)
    (st : Stage π σ) (course : Course) (left : List Command) (st' : Stage π σ) : Prop where
  split : cs = course.attempts.map (·.command) ++ left
  due : ∀ x ∈ course.attempts, x.command.due ≤ time
  carried : Carried t assets st (course.attempts.map (time, ·)) st'
  stops : Stops time course.attempts left course.stop

namespace Stops

/-- One more command in front changes nothing about why a drain stops, if it has not ended the
reel. -/
theorem cons {time : Int} {tried : List Attempt} {left : List Command}
    {stop : Except ScriptError DrainStatus} (h : Stops time tried left stop) {x : Attempt}
    (hx : x.endsReel = false) : Stops time (x :: tried) left stop := by
  cases h with
  | pending first early open' => exact .pending first early (List.forall_mem_cons.2 ⟨hx, open'⟩)
  | exhausted empty open' => exact .exhausted empty (List.forall_mem_cons.2 ⟨hx, open'⟩)
  | @ended front last split ends open' =>
    exact .ended (show x :: tried = (x :: front) ++ [last] by rw [split]; rfl) ends
      (List.forall_mem_cons.2 ⟨hx, open'⟩)

end Stops

namespace Scheduler

section

variable {s : Scheduler π σ} {reader reader' : Script.Reader} {time : Int} {done : Array Attempt}
  {w : World σ} {journal : Journal}

theorem courseFrom_error {e : ScriptError}
    (h : reader.next time w.journal = (.error e, reader', journal)) :
    s.courseFrom reader time done w =
      (⟨done.toList, .error e⟩, { s with reader := some reader' }, { w with journal }) := by
  rw [courseFrom]
  split <;> simp_all

theorem courseFrom_notYet (h : reader.next time w.journal = (.ok .notYet, reader', journal)) :
    s.courseFrom reader time done w =
      (⟨done.toList, .ok .pending⟩, { s with reader := some reader' }, { w with journal }) := by
  rw [courseFrom]
  split <;> simp_all

theorem courseFrom_endOfScript
    (h : reader.next time w.journal = (.ok .endOfScript, reader', journal)) :
    s.courseFrom reader time done w =
      (⟨done.toList, .ok .exhausted⟩, { s with reader := some reader' }, { w with journal }) := by
  rw [courseFrom]
  split <;> simp_all

/-- The scheduler and the world after a command that left `stage` behind. -/
def afterCommand (s : Scheduler π σ) (reader : Script.Reader) (time : Int) (x : Attempt)
    (stage : Stage π σ) : Scheduler π σ × World σ :=
  ({ s with registry := stage.registry, timeline := stage.timeline, reader := some reader },
    stage.world.note (verdictEvent time x.command x.result))

theorem courseFrom_command (done : Array Attempt) {c : Command}
    {result : Except CommandError Verdict} {stage : Stage π σ}
    (h : reader.next time w.journal = (.ok (.command c), reader', journal))
    (hd : s.table.dispatch c s.assets time (s.stage { w with journal }) = (result, stage)) :
    s.courseFrom reader time done w =
      let x : Attempt := ⟨c, result⟩
      let after := s.afterCommand reader' time x stage
      if x.endsReel then
        (⟨(done.push x).toList, .ok .ended⟩, { after.1 with ended := true }, after.2)
      else after.1.courseFrom reader' time (done.push x) after.2 := by
  rw [courseFrom]
  split
  · simp_all
  · simp_all
  · simp_all
  · next heq =>
    rw [h] at heq
    cases heq
    simp only [hd]
    rfl

end

/-- What a drain leaves alone. -/
structure SameSetting (s s' : Scheduler π σ) : Prop where
  table : s'.table = s.table
  clock : s'.clock = s.clock
  source : s'.source = s.source
  assets : s'.assets = s.assets

theorem sameSetting_courseFrom (s : Scheduler π σ) (reader : Script.Reader) (time : Int)
    (done : Array Attempt) (w : World σ) :
    SameSetting s (s.courseFrom reader time done w).2.1 := by
  fun_induction courseFrom s reader time done w with
  | case1 => exact ⟨rfl, rfl, rfl, rfl⟩
  | case2 => exact ⟨rfl, rfl, rfl, rfl⟩
  | case3 => exact ⟨rfl, rfl, rfl, rfl⟩
  | case4 => exact ⟨rfl, rfl, rfl, rfl⟩
  | case5 _ _ _ _ _ _ _ _ _ _ _ _ _ _ _ _ ih =>
    exact ⟨ih.table, ih.clock, ih.source, ih.assets⟩

theorem sameSetting_drain (s : Scheduler π σ) (time : Int) (w : World σ) :
    SameSetting s (s.drain time w).2.1 := by
  show SameSetting s (s.course time w).2.1
  unfold course
  split
  · exact ⟨rfl, rfl, rfl, rfl⟩
  · split
    · exact ⟨rfl, rfl, rfl, rfl⟩
    · exact s.sameSetting_courseFrom _ time #[] w

/-- A drain of a script that holds the commands `cs`. The records in `done` stay in front. -/
theorem courseFrom_drained {s : Scheduler π σ} {reader : Script.Reader} {cs : List Command}
    (h : reader.Holds (cs.map .command)) (hs : s.ended = false) (time : Int)
    (done : Array Attempt) (w : World σ) :
    ∃ new left reader' stop s' w',
      s.courseFrom reader time done w = (⟨done.toList ++ new, stop⟩, s', w') ∧
      Drained s.table s.assets time cs (s.stage w) ⟨new, stop⟩ left (s'.stage w') ∧
      s'.reader = some reader' ∧ reader'.Holds (left.map .command) ∧
      s'.ended = new.any Attempt.endsReel ∧ SameSetting s s' := by
  induction cs generalizing s reader done w with
  | nil =>
    obtain ⟨r', j', read, hnext, hholds, -⟩ := h.next time w.journal
    refine ⟨[], [], r', .ok .exhausted, { s with reader := some r' }, { w with journal := j' },
      ?_, ?_, rfl, hholds, hs, ⟨rfl, rfl, rfl, rfl⟩⟩
    · rw [courseFrom_endOfScript hnext, List.append_nil]
    · exact ⟨rfl, by simp, .done _ j', .exhausted rfl (by simp)⟩
  | cons c cs ih =>
    obtain ⟨r', j', read, hnext, hholds, -⟩ := h.next time w.journal
    by_cases hdue : c.due ≤ time
    · simp only [List.map_cons, Script.Queue.next, if_pos hdue] at hnext hholds
      obtain ⟨result, stage, hd⟩ :
          ∃ result stage, s.table.dispatch c s.assets time (s.stage { w with journal := j' }) =
            (result, stage) := ⟨_, _, rfl⟩
      have hcourse := courseFrom_command done hnext hd
      generalize hx : (⟨c, result⟩ : Attempt) = x at hcourse
      let after := s.afterCommand r' time x stage
      cases hends : x.endsReel with
      | true =>
        simp only [hends, if_true] at hcourse
        refine ⟨[x], cs, r', .ok .ended, { after.1 with ended := true }, after.2,
          ?_, ?_, rfl, hholds, ?_, ⟨rfl, rfl, rfl, rfl⟩⟩
        · rw [hcourse, Array.toList_push]
        · subst hx
          exact ⟨rfl, by simpa using hdue, .next j' hd (.done _ _),
            .ended (List.nil_append _).symm hends (by simp)⟩
        · simp [hends]
      | false =>
        simp only [hends, Bool.false_eq_true, if_false] at hcourse
        obtain ⟨new, left, reader', stop, s', w', heq, hdrained, hreader, hleft, hended, hsame⟩ :=
          ih (s := after.1) hholds hs (done.push x) after.2
        refine ⟨x :: new, left, reader', stop, s', w', ?_, ?_, hreader, hleft, ?_,
          ⟨hsame.table, hsame.clock, hsame.source, hsame.assets⟩⟩
        · rw [hcourse, heq, Array.toList_push, List.append_assoc]; rfl
        · subst hx
          exact ⟨by simp [hdrained.split], List.forall_mem_cons.2 ⟨hdue, hdrained.due⟩,
            .next j' hd hdrained.carried.of_withJournal, hdrained.stops.cons hends⟩
        · simp [hended, hends]
    · simp only [List.map_cons, Script.Queue.next, if_neg hdue] at hnext hholds
      refine ⟨[], c :: cs, r', .ok .pending, { s with reader := some r' },
        { w with journal := j' }, ?_, ?_, rfl, hholds, hs, ⟨rfl, rfl, rfl, rfl⟩⟩
      · rw [courseFrom_notYet hnext, List.append_nil]
      · exact ⟨rfl, by simp, .done _ j', .pending rfl (Int.not_le.1 hdue) (by simp)⟩

end Scheduler

end DemoReel
