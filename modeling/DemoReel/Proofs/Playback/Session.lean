import DemoReel.Proofs.Playback.Course

/-!
# Playing a script

A scheduler that has opened a text as its script, and the drains since then. Main statement:
whatever is asked of it, the drains carry out the commands of the text in order, each once and none
too early, and tell rightly why they stop (`drains_in_order`).
-/

namespace DemoReel

/-- A drain, what it reported and what came of its commands. -/
structure Drain where
  time : Int
  report : Except ScriptError DrainReport
  attempts : List Attempt

/-- The attempts of several drains. -/
def past (ds : List Drain) : List Attempt := ds.flatMap (·.attempts)

theorem past_append (ds ds' : List Drain) : past (ds ++ ds') = past ds ++ past ds' :=
  List.flatMap_append

@[simp] theorem past_nil : past [] = [] := rfl

@[simp] theorem past_singleton (d : Drain) : past [d] = d.attempts := by simp [past]

/-- What is asked of a scheduler while a script plays. The source of its clock reads `reading`. -/
inductive Order where
  | drain (time : Int)
  | seekForward (ms : Int64)
  | seekBack (ms reading : Int64)
  | restart (reading : Int64)
  deriving DecidableEq, Repr

/-- A scheduler, its world, and the drains since its script was last opened. -/
structure Session (π σ : Type) where
  scheduler : Scheduler π σ
  world : World σ
  drains : List Drain

variable {π σ : Type}

namespace Session

/-- A script is opened for the first time. -/
def opened (content : String) (s : Scheduler π σ) (w : World σ) : Session π σ :=
  let (_, s, w) := s.load (.text content) w
  ⟨s, w, []⟩

/-- After an attempt to open the script again. -/
def reopened (ss : Session π σ) : Except ScriptError Unit × Scheduler π σ × World σ → Session π σ
  | (.ok (), s, w) => ⟨s, w, []⟩
  | (.error _, s, w) => ⟨s, w, ss.drains⟩

def perform (ss : Session π σ) : Order → Session π σ
  | .drain time =>
    let (report, s, w) := ss.scheduler.drain time ss.world
    ⟨s, w, ss.drains ++ [⟨time, report, (ss.scheduler.course time ss.world).1.attempts⟩]⟩
  | .seekForward ms => { ss with scheduler := ss.scheduler.seekForward ms }
  | .seekBack ms reading => ss.reopened (ss.scheduler.seekBack ms reading ss.world)
  | .restart reading => ss.reopened (ss.scheduler.restart reading ss.world)

def run (ss : Session π σ) (orders : List Order) : Session π σ := orders.foldl perform ss

def stage (ss : Session π σ) : Stage π σ := ss.scheduler.stage ss.world

end Session

/-! ## The drains of one opening -/

/-- The drains since a script with the commands `cs` was opened on the stage `st₀`; the commands
that are left, whether the reel has ended, and the stage now. -/
inductive Plays (t : CommandTable π σ) (assets : Assets) (cs : List Command) (st₀ : Stage π σ) :
    List Drain → List Command → Bool → Stage π σ → Prop where
  | opened : Plays t assets cs st₀ [] cs false st₀
  | drain {ds : List Drain} {left left' : List Command} {st st' : Stage π σ} {course : Course}
      (h : Plays t assets cs st₀ ds left false st) (time : Int)
      (hd : Drained t assets time left st course left' st') :
      Plays t assets cs st₀ (ds ++ [⟨time, course.report, course.attempts⟩]) left'
        (course.attempts.any Attempt.endsReel) st'
  | afterEnd {ds : List Drain} {left : List Command} {st : Stage π σ}
      (h : Plays t assets cs st₀ ds left true st) (time : Int) :
      Plays t assets cs st₀ (ds ++ [⟨time, .ok ⟨[], .ended⟩, []⟩]) left true st

/-- The last of some attempts has ended the reel, and no other. -/
def EndsAtLast (tried : List Attempt) : Prop :=
  ∃ front last, tried = front ++ [last] ∧ last.endsReel = true ∧ ∀ x ∈ front, x.endsReel = false

/-- What a status tells after a drain at `time`, when `tried` has been tried since the script was
opened. -/
def Tells (cs : List Command) (tried : List Attempt) (time : Int) : DrainStatus → Prop
  | .pending => (∃ c rest, cs = tried.map (·.command) ++ c :: rest ∧ time < c.due) ∧
      ∀ x ∈ tried, x.endsReel = false
  | .exhausted => tried.map (·.command) = cs ∧ ∀ x ∈ tried, x.endsReel = false
  | .ended => EndsAtLast tried

/-- A drain after which `tried` has been tried since the script was opened. -/
structure Answers (cs : List Command) (tried : List Attempt) (d : Drain) : Prop where
  front : tried.map (·.command) <+: cs
  due : ∀ x ∈ d.attempts, x.command.due ≤ d.time
  reported : ∃ status, d.report = .ok ⟨d.attempts.map Attempt.record, status⟩ ∧
    Tells cs tried d.time status

/-- Nothing happens in a drain after the end of the reel. -/
def Drain.IsOver (d : Drain) : Prop := d.attempts = [] ∧ d.report = .ok ⟨[], .ended⟩

/-- All drains since a script was opened answer rightly, and once one has told the end of the reel,
nothing happens any more. -/
def InOrder (cs : List Command) (ds : List Drain) : Prop :=
  ∀ before d after, ds = before ++ d :: after →
    Answers cs (past (before ++ [d])) d ∧
      ((∃ rs, d.report = .ok ⟨rs, .ended⟩) → ∀ e ∈ after, e.IsOver)

theorem endsAtLast_append {tried tried' : List Attempt} (h : ∀ x ∈ tried, x.endsReel = false)
    (h' : EndsAtLast tried') : EndsAtLast (tried ++ tried') := by
  obtain ⟨front, last, rfl, hlast, hfront⟩ := h'
  refine ⟨tried ++ front, last, by simp, hlast, fun x hx => ?_⟩
  rcases List.mem_append.1 hx with hx | hx
  · exact h x hx
  · exact hfront x hx

/-- Why a drain stops is what its status tells, also about the drains before it. -/
theorem Stops.tells {cs left : List Command} {tried tried' : List Attempt} {time : Int}
    {stop : Except ScriptError DrainStatus} (h : Stops time tried' left stop)
    (htried : ∀ x ∈ tried, x.endsReel = false)
    (hcs : cs = (tried ++ tried').map (·.command) ++ left) :
    ∃ status, stop = .ok status ∧ Tells cs (tried ++ tried') time status ∧
      tried'.any Attempt.endsReel = (status == .ended) := by
  cases h with
  | @pending c rest first early open' =>
    refine ⟨.pending, rfl, ⟨⟨c, rest, first ▸ hcs, early⟩, ?_⟩, ?_⟩
    · exact List.forall_mem_append.2 ⟨htried, open'⟩
    · show tried'.any Attempt.endsReel = false
      simpa using open'
  | exhausted empty open' =>
    refine ⟨.exhausted, rfl, ⟨?_, List.forall_mem_append.2 ⟨htried, open'⟩⟩, ?_⟩
    · rw [hcs, empty, List.append_nil]
    · show tried'.any Attempt.endsReel = false
      simpa using open'
  | @ended front last split ends open' =>
    exact ⟨.ended, rfl, endsAtLast_append htried ⟨front, last, split, ends, open'⟩,
      by simp [split, ends]⟩

namespace Plays

variable {t : CommandTable π σ} {assets : Assets} {cs left : List Command} {st₀ st : Stage π σ}
  {ds : List Drain} {ended : Bool}

theorem split (h : Plays t assets cs st₀ ds left ended st) :
    cs = (past ds).map (·.command) ++ left := by
  induction h with
  | opened => rfl
  | drain h time hd ih =>
    simp only [past_append, past_singleton, List.map_append, List.append_assoc]
    rw [← hd.split, ← ih]
  | afterEnd h time ih => simpa [past_append] using ih

/-- The reel has ended exactly if the last attempt has ended it. -/
theorem mark (h : Plays t assets cs st₀ ds left ended st) :
    (ended = true → EndsAtLast (past ds)) ∧
      (ended = false → ∀ x ∈ past ds, x.endsReel = false) := by
  induction h with
  | opened => simp
  | @drain ds left left' st st' course h time hd ih =>
    have hopen := ih.2 rfl
    have hsplit : cs = (past ds ++ course.attempts).map (·.command) ++ left' := by
      rw [List.map_append, List.append_assoc, ← hd.split, ← h.split]
    obtain ⟨status, -, htells, hany⟩ := hd.stops.tells hopen hsplit
    simp only [past_append, past_singleton, hany]
    cases status with
    | pending => exact ⟨by simp, fun _ => htells.2⟩
    | exhausted => exact ⟨by simp, fun _ => htells.2⟩
    | ended => exact ⟨fun _ => htells, by simp⟩
  | afterEnd h time ih => simpa [past_append] using ih

theorem carried (h : Plays t assets cs st₀ ds left ended st) :
    ∃ timed, timed.map (·.2) = past ds ∧ (∀ p ∈ timed, p.1 ∈ ds.map (·.time)) ∧
      Carried t assets st₀ timed st := by
  induction h with
  | opened => exact ⟨[], rfl, by simp, .done st₀ st₀.world.journal⟩
  | @drain ds left left' st st' course h time hd ih =>
    obtain ⟨timed, hpast, htimes, hcarried⟩ := ih
    refine ⟨timed ++ course.attempts.map (time, ·), ?_, ?_, hcarried.append hd.carried⟩
    · simp [hpast, past_append, Function.comp_def]
    · intro p hp
      rcases List.mem_append.1 hp with hp | hp
      · exact List.mem_map.2 ((List.mem_map.1 (htimes p hp)).imp fun d hd => by simp [hd])
      · obtain ⟨x, -, rfl⟩ := List.mem_map.1 hp
        simp
  | afterEnd h time ih =>
    obtain ⟨timed, hpast, htimes, hcarried⟩ := ih
    refine ⟨timed, by simp [hpast, past_append], fun p hp => ?_, hcarried⟩
    exact List.mem_map.2 ((List.mem_map.1 (htimes p hp)).imp fun d hd => by simp [hd])

end Plays

/-- The last of a list with one more element at its end, or an earlier one. -/
theorem split_concat {α : Type} {l before after : List α} {a b : α}
    (h : l ++ [a] = before ++ b :: after) :
    (before = l ∧ b = a ∧ after = []) ∨ ∃ rest, after = rest ++ [a] ∧ l = before ++ b :: rest := by
  rcases List.eq_nil_or_concat after with rfl | ⟨rest, c, rfl⟩
  · obtain ⟨rfl, hb⟩ := List.append_inj' h rfl
    exact .inl ⟨rfl, (List.cons.inj hb).1.symm, rfl⟩
  · rw [List.concat_eq_append, ← List.cons_append, ← List.append_assoc] at h
    obtain ⟨rfl, hc⟩ := List.append_inj' h rfl
    exact .inr ⟨rest, by rw [(List.cons.inj hc).1, List.concat_eq_append], rfl⟩

theorem Plays.inOrder {t : CommandTable π σ} {assets : Assets} {cs left : List Command}
    {st₀ st : Stage π σ} {ds : List Drain} {ended : Bool}
    (h : Plays t assets cs st₀ ds left ended st) : InOrder cs ds := by
  induction h with
  | opened => intro before d after hds; simp at hds
  | @drain ds left left' st st' course h time hd ih =>
    intro before d after hds
    rcases split_concat hds with ⟨rfl, rfl, rfl⟩ | ⟨rest, rfl, rfl⟩
    · have hsplit : cs = (past before ++ course.attempts).map (·.command) ++ left' := by
        rw [List.map_append, List.append_assoc, ← hd.split, ← h.split]
      obtain ⟨status, hstop, htells, -⟩ := hd.stops.tells (h.mark.2 rfl) hsplit
      simp only [past_append, past_singleton]
      refine ⟨⟨⟨left', hsplit.symm⟩, hd.due, status, ?_, htells⟩, by simp⟩
      simp [Course.report, hstop, Except.map]
    · obtain ⟨hanswers, hover⟩ := ih before d rest rfl
      refine ⟨hanswers, fun ⟨rs, hrs⟩ => ?_⟩
      -- A drain that told the end contradicts that commands are still carried out.
      obtain ⟨status, hreport, htells⟩ := hanswers.reported
      obtain rfl : status = .ended := by
        rw [hrs] at hreport; cases hreport; rfl
      obtain ⟨front, last, htried, hlast, -⟩ := htells
      have hmem : last ∈ past (before ++ d :: rest) := by
        rw [List.append_cons, past_append, htried]; simp
      rw [h.mark.2 rfl last hmem] at hlast
      exact absurd hlast (by simp)
  | @afterEnd ds left st h time ih =>
    intro before d after hds
    rcases split_concat hds with ⟨rfl, rfl, rfl⟩ | ⟨rest, rfl, rfl⟩
    · simp only [past_append, past_singleton, List.append_nil]
      refine ⟨⟨⟨left, h.split.symm⟩, by simp, .ended, rfl, h.mark.1 rfl⟩, by simp⟩
    · obtain ⟨hanswers, hover⟩ := ih before d rest rfl
      refine ⟨hanswers, fun hend => List.forall_mem_append.2 ⟨hover hend, ?_⟩⟩
      exact List.forall_mem_singleton.2 ⟨rfl, rfl⟩

/-! ## Sessions -/

namespace Session

/-- The session plays the text `content`, which was last opened on the stage `st₀`. -/
structure Follows (t : CommandTable π σ) (content : String) (st₀ : Stage π σ)
    (ss : Session π σ) : Prop where
  table : ss.scheduler.table = t
  source : ss.scheduler.source = some (.text content)
  assets : ss.scheduler.assets = {}
  plays : ∃ left reader, ss.scheduler.reader = some reader ∧ reader.Holds (left.map .command) ∧
    Plays t {} (Script.commandsOf content) st₀ ss.drains left ss.scheduler.ended ss.stage

variable {t : CommandTable π σ} {content : String} {st₀ : Stage π σ} {ss : Session π σ}

theorem follows_opened (content : String) (s : Scheduler π σ) (w : World σ) :
    (opened content s w).Follows s.table content (opened content s w).stage :=
  ⟨rfl, rfl, rfl, _, _, rfl, Script.Reader.holds_text content, .opened⟩

theorem Follows.seekForward (h : ss.Follows t content st₀) (ms : Int64) :
    (ss.perform (.seekForward ms)).Follows t content st₀ :=
  ⟨h.table, h.source, h.assets, h.plays⟩

theorem perform_drain_of_course {time : Int} {course : Course} {s : Scheduler π σ} {w : World σ}
    (h : ss.scheduler.course time ss.world = (course, s, w)) :
    ss.perform (.drain time) =
      ⟨s, w, ss.drains ++ [⟨time, course.report, course.attempts⟩]⟩ := by
  simp only [perform, Scheduler.drain, h]

/-- A drain goes on with the commands that are left, unless the reel has ended. -/
theorem plays_drain {assets : Assets} {cs left : List Command} {reader : Script.Reader}
    (htable : ss.scheduler.table = t) (hassets : ss.scheduler.assets = assets)
    (hreader : ss.scheduler.reader = some reader) (hholds : reader.Holds (left.map .command))
    (hplays : Plays t assets cs st₀ ss.drains left ss.scheduler.ended ss.stage) (time : Int) :
    let ss' := ss.perform (.drain time)
    Scheduler.SameSetting ss.scheduler ss'.scheduler ∧ ∃ left' reader',
      ss'.scheduler.reader = some reader' ∧ reader'.Holds (left'.map .command) ∧
      Plays t assets cs st₀ ss'.drains left' ss'.scheduler.ended ss'.stage := by
  intro ss'
  cases hended : ss.scheduler.ended with
  | true =>
    have hcourse : ss.scheduler.course time ss.world =
        (⟨[], .ok .ended⟩, ss.scheduler, ss.world) := by simp [Scheduler.course, hended]
    rw [hended] at hplays
    rw [show ss' = _ from perform_drain_of_course hcourse]
    exact ⟨⟨rfl, rfl, rfl, rfl⟩, left, reader, hreader, hholds, hended ▸ hplays.afterEnd time⟩
  | false =>
    obtain ⟨new, left', reader', stop, s', w', heq, hdrained, hreader', hholds', hended', hsame⟩ :=
      ss.scheduler.courseFrom_drained hholds hended time #[] ss.world
    have hcourse : ss.scheduler.course time ss.world = (⟨new, stop⟩, s', w') := by
      simp only [Scheduler.course, hended, hreader]
      exact heq
    rw [show ss' = _ from perform_drain_of_course hcourse]
    rw [htable, hassets] at hdrained
    rw [hended] at hplays
    exact ⟨hsame, left', reader', hreader', hholds', hended' ▸ hplays.drain time hdrained⟩

theorem Follows.drain (h : ss.Follows t content st₀) (time : Int) :
    (ss.perform (.drain time)).Follows t content st₀ := by
  obtain ⟨left, reader, hreader, hholds, hplays⟩ := h.plays
  obtain ⟨hsame, hrest⟩ := plays_drain h.table h.assets hreader hholds hplays time
  exact ⟨hsame.table.trans h.table, hsame.source.trans h.source, hsame.assets.trans h.assets, hrest⟩

/-- The scheduler after the script has been opened again: parts have stopped, effects are gone. -/
theorem Follows.restart_eq (h : ss.Follows t content st₀) (reading : Int64) :
    ss.perform (.restart reading) =
      ⟨{ ss.scheduler with
          registry := ss.scheduler.registry.stopAll
          timeline := ss.scheduler.timeline.clear
          reader := some (.ofLines ((Text.lines content).map some))
          ended := false }, ss.world.note (.scriptRestarted (ss.scheduler.now reading)), []⟩ := by
  simp [perform, reopened, Scheduler.restart, h.source, Script.Source.reader]

theorem Follows.restart (h : ss.Follows t content st₀) (reading : Int64) :
    (ss.perform (.restart reading)).Follows t content (ss.perform (.restart reading)).stage := by
  rw [h.restart_eq]
  exact ⟨h.table, h.source, h.assets, _, _, rfl, Script.Reader.holds_text content, .opened⟩

/-- The session with its clock moved back. To go back is to restart then. -/
def moved (ss : Session π σ) (ms : Int64) : Session π σ :=
  { ss with scheduler := { ss.scheduler with clock := ss.scheduler.clock.seekBack ms } }

theorem Follows.moved (h : ss.Follows t content st₀) (ms : Int64) :
    (ss.moved ms).Follows t content st₀ := ⟨h.table, h.source, h.assets, h.plays⟩

theorem perform_seekBack (ss : Session π σ) (ms reading : Int64) :
    ss.perform (.seekBack ms reading) = (ss.moved ms).perform (.restart reading) := rfl

/-- The stage at the last opening is still the same, or it is the one of now. -/
theorem Follows.perform (h : ss.Follows t content st₀) (order : Order) :
    ∃ st₁, (ss.perform order).Follows t content st₁ ∧
      (st₁ = st₀ ∨ ∃ journal, st₁.world = ss.world.withJournal journal) := by
  cases order with
  | drain time => exact ⟨st₀, h.drain time, .inl rfl⟩
  | seekForward ms => exact ⟨st₀, h.seekForward ms, .inl rfl⟩
  | seekBack ms reading =>
    have hmoved := h.moved ms
    refine ⟨_, hmoved.restart reading, .inr ⟨(ss.perform (.seekBack ms reading)).world.journal, ?_⟩⟩
    rw [perform_seekBack, hmoved.restart_eq]
    rfl
  | restart reading =>
    refine ⟨_, h.restart reading, .inr ⟨(ss.perform (.restart reading)).world.journal, ?_⟩⟩
    rw [h.restart_eq]
    rfl

theorem Follows.run (h : ss.Follows t content st₀) (orders : List Order) :
    ∃ st₁, (ss.run orders).Follows t content st₁ := by
  induction orders generalizing ss st₀ with
  | nil => exact ⟨st₀, h⟩
  | cons order orders ih =>
    obtain ⟨st₁, h₁, -⟩ := h.perform order
    exact ih h₁

/-- Whatever is asked of a scheduler after it has opened a text, and whatever the handlers of its
table do: since the last opening, the commands of the text have been carried out from the first one
on, each once and none too early, and every drain tells rightly why it stops. -/
theorem drains_in_order (content : String) (s : Scheduler π σ) (w : World σ)
    (orders : List Order) :
    InOrder (Script.commandsOf content) ((opened content s w).run orders).drains := by
  obtain ⟨st₁, h⟩ := (follows_opened content s w).run orders
  obtain ⟨left, reader, -, -, hplays⟩ := h.plays
  exact hplays.inOrder

end Session

end DemoReel
