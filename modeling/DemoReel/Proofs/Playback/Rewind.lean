import DemoReel.Playback.Console
import DemoReel.Proofs.Number.Numeral
import DemoReel.Proofs.Playback.Replay
import DemoReel.Proofs.Playback.Requests

/-!
# Requests that go back

What a reel shows at a time depends on the commands up to it, so a clock that is moved back needs a
script that is read anew. Requests to go back see to that; requests to go forward do not, and there
are two ways in which they take the clock back all the same: by a negative amount, and past the last
moment of all, where the clock starts again at the first. Main statement: exactly the lines that ask
for this, such as `+-15`, break the rule (`Console.rewinds_iff`).
-/

namespace DemoReel

open Number

variable {π σ : Type}

/-! ## Lines -/

namespace Control

/-- The line starts with a plus sign, white space aside. -/
def SaysPlus (line : String) : Prop := ∃ rest, Text.trim line.toList = '+' :: rest

/-- The line is a plus sign and a 64-bit amount, which may have a sign of its own, white space
aside. -/
def SaysForward (line : String) (ms : Int) : Prop :=
  ∃ rest, Text.trim line.toList = '+' :: rest ∧ IsInteger maxInt64 (Text.trim rest) ms

theorem amount?_eq_some_iff {cs : List Char} {ms : Int64} :
    amount? cs = some ms ↔ IsInteger maxInt64 (Text.trim cs) ms.toInt := by
  rw [amount?, Option.map_eq_some_iff, ← readInt_eq_ok_iff]
  constructor
  · rintro ⟨i, hi, rfl⟩
    rw [toOption_eq_some_iff] at hi
    rw [hi, (readInt_eq_ok_iff.1 hi).toInt_ofInt]
  · intro h
    exact ⟨ms.toInt, toOption_eq_some_iff.2 h, Int64.ofInt_toInt ms⟩

theorem ofLine?_plus {line : String} {rest : List Char}
    (h : Text.trim line.toList = '+' :: rest) :
    ofLine? line = (amount? rest).map .seekForward := by
  simp [ofLine?, h]

theorem ofLine?_eq_seekForward_iff {line : String} {ms : Int64} :
    ofLine? line = some (.seekForward ms) ↔ SaysForward line ms.toInt := by
  constructor
  · intro h
    simp only [ofLine?] at h
    split at h
    · cases h
    split at h
    · cases h
    split at h
    · next rest hrest =>
      obtain ⟨ms', hamount, hms⟩ := Option.map_eq_some_iff.1 h
      cases hms
      exact ⟨rest, hrest, amount?_eq_some_iff.1 hamount⟩
    · next rest hrest =>
      obtain ⟨ms', -, hms⟩ := Option.map_eq_some_iff.1 h
      cases hms
    · cases h
  · rintro ⟨rest, hline, hamount⟩
    rw [ofLine?_plus hline, amount?_eq_some_iff.2 hamount, Option.map_some]

end Control

/-! ## The scheduler -/

namespace Scheduler

variable {s : Scheduler π σ} {w : World σ} {content : String}

/-- Nothing has been carried out since the script was opened. -/
structure Rewound (content : String) (s : Scheduler π σ) : Prop where
  reader : s.reader = some (.ofLines ((Text.lines content).map some))
  stopped : s.registry.runningNames = []
  effects : s.timeline.effects = []
  notEnded : s.ended = false

theorem rewound_seekBack (h : s.source = some (.text content)) (ms reading : Int64) :
    (s.obey reading (.seekBack ms) w).2.1.Rewound content := by
  simp only [obey, seekBack, restart, h, Script.Source.reader_text]
  exact ⟨rfl, Registry.runningNames_stopAll s.registry, rfl, rfl⟩

end Scheduler

/-! ## The console -/

namespace Console

variable {c : Console π σ} {content line : String}

theorem scheduler_obey (reading : Int64) (request : Control) :
    (c.obey reading request).scheduler = (c.scheduler.obey reading request c.world).2.1 := by
  obtain ⟨event, hattend⟩ := c.scheduler.exists_attend reading request c.world
  rw [obey, hattend]

/-- What a line does to the scheduler, if playback has not been stopped. -/
theorem scheduler_obeyLines_singleton (h : c.stopped = false) (reading : Int64) (line : String) :
    (c.obeyLines reading [some line]).scheduler =
      match Control.ofLine? line with
      | none => c.scheduler
      | some request => (c.scheduler.obey reading request c.world).2.1 := by
  unfold obeyLines
  rw [h, if_neg Bool.false_ne_true]
  dsimp only
  cases Control.ofLine? line with
  | none =>
    dsimp only
    rw [obeyLines]
  | some request =>
    cases request with
    | quit => rfl
    | togglePause =>
      dsimp only
      rw [obeyLines, scheduler_obey]
    | seekForward ms =>
      dsimp only
      rw [obeyLines, scheduler_obey]
    | seekBack ms =>
      dsimp only
      rw [obeyLines, scheduler_obey]

theorem now_obeyLines_singleton (h : c.stopped = false) (reading : Int64) (line : String) :
    (c.obeyLines reading [some line]).scheduler.now reading =
      (c.scheduler.clock.elapsed reading +
        ((Control.ofLine? line).map Control.shift).getD 0).toInt := by
  rw [scheduler_obeyLines_singleton h]
  cases Control.ofLine? line with
  | none => exact congrArg Int64.toInt (Int64.add_zero _).symm
  | some request =>
    exact congrArg Int64.toInt (Scheduler.elapsed_obey reading request c.scheduler c.world)

/-- If the line moves the clock back, the script is read anew; and a plus sign does not move it
back. -/
def Rewinds (content : String) (reading : Int64) (line : String) (c : Console π σ) : Prop :=
  let s := (c.obeyLines reading [some line]).scheduler
  let back := s.now reading < c.scheduler.now reading
  (back → s.Rewound content) ∧ (Control.SaysPlus line → ¬ back)

/-- Lines keep the rule, but for those that ask to go forward by a negative amount, if the clock can
show the time before, and those that ask to go past the last moment of all: they move the clock
back, and the reel shows what it has come to all the same. -/
theorem rewinds_iff (content : String) (reading : Int64) (line : String) (c : Console π σ)
    (hgoing : c.stopped = false) (hsource : c.scheduler.source = some (.text content)) :
    let now := c.scheduler.now reading
    c.Rewinds content reading line ↔ ¬ ∃ ms, Control.SaysForward line ms ∧
      (ms < 0 ∧ minInt64 ≤ now + ms ∨ maxInt64 < now + ms) := by
  intro now
  have hnow := now_obeyLines_singleton hgoing reading line
  constructor
  · rintro ⟨-, hplus⟩ ⟨ms, hsays, hback⟩
    have ⟨rest, hline, hamount⟩ := hsays
    -- In 64 bits, the amount is what is written.
    obtain ⟨ms, rfl⟩ : ∃ ms' : Int64, ms'.toInt = ms := ⟨.ofInt ms, hamount.toInt_ofInt⟩
    refine hplus ⟨rest, hline⟩ ?_
    rw [hnow, Control.ofLine?_eq_seekForward_iff.2 hsays]
    exact toInt_add_lt_iff.2 hback
  · intro hsays
    -- Only a request to go back takes the clock back.
    have hback : (c.obeyLines reading [some line]).scheduler.now reading <
        c.scheduler.now reading → ∃ ms, Control.ofLine? line = some (.seekBack ms) := by
      intro hback
      rw [hnow] at hback
      cases hrequest : Control.ofLine? line with
      | none =>
        rw [hrequest, Option.map_none, Option.getD_none, Int64.add_zero] at hback
        exact absurd hback (Int.lt_irrefl _)
      | some request =>
        rw [hrequest, Option.map_some, Option.getD_some] at hback
        cases request with
        | togglePause | quit =>
          rw [Control.shift, Int64.add_zero] at hback
          exact absurd hback (Int.lt_irrefl _)
        | seekForward ms =>
          exact absurd ⟨ms.toInt, Control.ofLine?_eq_seekForward_iff.1 hrequest,
            toInt_add_lt_iff.1 hback⟩ hsays
        | seekBack ms => exact ⟨ms, rfl⟩
    refine ⟨fun h => ?_, ?_⟩
    · obtain ⟨ms, hrequest⟩ := hback h
      rw [scheduler_obeyLines_singleton hgoing, hrequest]
      exact Scheduler.rewound_seekBack hsource ms reading
    · rintro ⟨rest, hline⟩ h
      obtain ⟨ms, hrequest⟩ := hback h
      rw [Control.ofLine?_plus hline] at hrequest
      obtain ⟨ms', -, hms⟩ := Option.map_eq_some_iff.1 hrequest
      cases hms

/-- A console at a reel that has come to `START_PART a`, with its clock at 20. -/
def underway : Console Unit Catalog :=
  let ss := (Session.opened "0 START_PART a\n100 END\n" Session.onePart Session.noFiles).run
    [.seekForward 20, .drain 20]
  ⟨ss.scheduler, ss.world, false⟩

/-- White space and a plus sign of the amount do no harm. -/
theorem rewinds_minus :
    underway.stopped = false ∧
      underway.scheduler.source = some (.text "0 START_PART a\n100 END\n") ∧
      (underway.obeyLines 0 [some " - +15 "]).scheduler.now 0 = 5 ∧
      underway.Rewinds "0 START_PART a\n100 END\n" 0 " - +15 " := by
  have hsource : underway.scheduler.source = some (.text "0 START_PART a\n100 END\n") := by
    decide +kernel
  refine ⟨rfl, hsource, by decide +kernel, (rewinds_iff _ 0 " - +15 " underway rfl hsource).2 ?_⟩
  have htrim : Text.trim " - +15 ".toList = ['-', ' ', '+', '1', '5'] := by decide
  rintro ⟨ms, ⟨rest, hline, -⟩, -⟩
  rw [htrim] at hline
  cases hline

/-- The clock goes from 20 back to 5, and the part that was started runs on. -/
theorem not_rewinds_plus_minus :
    underway.stopped = false ∧
      underway.scheduler.source = some (.text "0 START_PART a\n100 END\n") ∧
      underway.scheduler.now 0 = 20 ∧
      (underway.obeyLines 0 [some "+-15"]).scheduler.now 0 = 5 ∧
      (underway.obeyLines 0 [some "+-15"]).scheduler.registry.runningNames = ["a"] ∧
      ¬ underway.Rewinds "0 START_PART a\n100 END\n" 0 "+-15" := by
  have hbefore : underway.scheduler.now 0 = 20 := by decide +kernel
  have hafter : (underway.obeyLines 0 [some "+-15"]).scheduler.now 0 = 5 := by decide +kernel
  have hplus : Control.SaysPlus "+-15" := ⟨['-', '1', '5'], by decide⟩
  refine ⟨rfl, by decide +kernel, hbefore, hafter, by decide +kernel, fun hrewinds => ?_⟩
  refine hrewinds.2 hplus ?_
  rw [hbefore, hafter]
  decide

end Console

end DemoReel
