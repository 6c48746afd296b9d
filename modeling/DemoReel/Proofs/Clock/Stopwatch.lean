import Mathlib.Algebra.BigOperators.Group.List.Basic
import Mathlib.Algebra.Group.Hom.Defs
import Mathlib.Algebra.Ring.Int.Defs
import Mathlib.Data.List.DropRight
import Mathlib.Tactic.Abel
import DemoReel.Clock
import DemoReel.Proofs.Number.Wraparound

/-!
# The clock is a stopwatch

What a clock shows, told from all that has happened to it and to its source. Main statement: it
shows the movements of its source while it ran, and the seeks forward less the seeks back, all since
the last reset (`Timer.run_made`). Whether it ran is told from the starts and stops alone
(`phaseAfter`). All this holds in any numbers that can be added and subtracted: in the integers, and
in 64 bits, where what is shown is what is left of the exact value (`Timer.toInt_shown`).
-/

namespace DemoReel

open Number.Wrapping

namespace Clock

variable {τ : Type}

/-! ## One operation -/

section

variable [AddCommGroup τ]

@[simp] theorem elapsed_start (now : τ) (c : Clock τ) :
    (c.start now).elapsed now = c.elapsed now := by
  cases c with
  | running _ => rfl
  | paused value => exact sub_sub_cancel now value
  | reset value => exact sub_sub_cancel now value

@[simp] theorem elapsed_seekForward (now ms : τ) (c : Clock τ) :
    (c.seekForward ms).elapsed now = c.elapsed now + ms := by
  cases c with
  | running origin =>
    show now - (origin - ms) = now - origin + ms
    abel
  | paused _ => rfl
  | reset _ => rfl

@[simp] theorem elapsed_seekBack (now ms : τ) (c : Clock τ) :
    (c.seekBack ms).elapsed now = c.elapsed now - ms := by
  cases c with
  | running origin => exact sub_add_eq_sub_sub now origin ms
  | paused _ => rfl
  | reset _ => rfl

@[simp] theorem elapsed_toggle (now : τ) (c : Clock τ) :
    (c.toggle now).elapsed now = c.elapsed now := by
  unfold toggle
  split
  · exact elapsed_stop now c
  · exact elapsed_start now c

end

/-! ## What happens to a clock -/

/-- What happens to a clock or to the source that it reads. -/
inductive Act (τ : Type) where
  /-- The source moves, forwards or backwards. -/
  | tick (ms : τ)
  | start
  | stop
  | reset
  | seekForward (ms : τ)
  | seekBack (ms : τ)
  deriving DecidableEq, Repr

inductive Phase where
  | running
  | paused
  | reset
  deriving DecidableEq, Repr

def phase : Clock τ → Phase
  | .running _ => .running
  | .paused _ => .paused
  | .reset _ => .reset

/-! ## The past, without a clock -/

namespace Act

@[simp] def tick? : Act τ → Option τ
  | .tick ms => some ms
  | _ => none

@[simp] def forward? : Act τ → Option τ
  | .seekForward ms => some ms
  | _ => none

@[simp] def back? : Act τ → Option τ
  | .seekBack ms => some ms
  | _ => none

def isSwitch : Act τ → Bool
  | .start | .stop => true
  | _ => false

end Act

section

variable [DecidableEq τ]

/-- What has happened since the last reset, or since the clock was made. -/
def sinceReset (acts : List (Act τ)) : List (Act τ) := acts.rtakeWhile (· ≠ .reset)

/-- The last start or stop decides. A stop that no start has gone before has no effect. -/
def phaseAfter (acts : List (Act τ)) : Phase :=
  match (acts.filter Act.isSwitch).getLast? with
  | some .start => .running
  | some _ => if .start ∈ acts then .paused else .reset
  | none => .reset

/-- The movements of the source that found the clock running. -/
def countedTicks (acts : List (Act τ)) : List τ :=
  (List.range acts.length).filterMap fun i =>
    if phaseAfter (acts.take i) = .running then acts[i]?.bind Act.tick? else none

/-! ## One more act -/

/-- The phase that an act leads to. -/
def Act.next (p : Phase) : Act τ → Phase
  | .start => .running
  | .stop => if p = .reset then .reset else .paused
  | .reset => .reset
  | .tick _ | .seekForward _ | .seekBack _ => p

theorem sinceReset_append_reset (acts : List (Act τ)) : sinceReset (acts ++ [.reset]) = [] := by
  simp [sinceReset]

theorem sinceReset_append {a : Act τ} (h : a ≠ .reset) (acts : List (Act τ)) :
    sinceReset (acts ++ [a]) = sinceReset acts ++ [a] := by
  simp [sinceReset, h]

theorem phaseAfter_append_of_not_switch {a : Act τ} (h : a.isSwitch = false) (acts : List (Act τ)) :
    phaseAfter (acts ++ [a]) = phaseAfter acts := by
  have hne : .start ≠ a := by
    rintro rfl
    cases h
  simp [phaseAfter, h, hne]

theorem phaseAfter_eq_reset_iff (acts : List (Act τ)) :
    phaseAfter acts = .reset ↔ .start ∉ acts := by
  induction acts using List.reverseRecOn with
  | nil => simp [phaseAfter]
  | append_singleton acts a ih =>
    by_cases hswitch : a.isSwitch = true
    · cases a with
      | start => simp [phaseAfter, Act.isSwitch]
      | stop => simp [phaseAfter, Act.isSwitch]
      | _ => cases hswitch
    · have hne : .start ≠ a := by
        rintro rfl
        exact hswitch rfl
      rw [phaseAfter_append_of_not_switch (by simpa using hswitch), ih]
      simp [hne]

theorem phaseAfter_append {a : Act τ} (h : a ≠ .reset) (acts : List (Act τ)) :
    phaseAfter (acts ++ [a]) = a.next (phaseAfter acts) := by
  cases a with
  | reset => exact absurd rfl h
  | start => simp [phaseAfter, Act.isSwitch, Act.next]
  | stop =>
    by_cases hstart : .start ∈ acts
    · have hne : phaseAfter acts ≠ .reset := fun hr => (phaseAfter_eq_reset_iff acts).1 hr hstart
      rw [Act.next, if_neg hne]
      simp [phaseAfter, Act.isSwitch, hstart]
    · rw [Act.next, if_pos ((phaseAfter_eq_reset_iff acts).2 hstart)]
      simp [phaseAfter, Act.isSwitch, hstart]
  | tick _ => exact phaseAfter_append_of_not_switch rfl acts
  | seekForward _ => exact phaseAfter_append_of_not_switch rfl acts
  | seekBack _ => exact phaseAfter_append_of_not_switch rfl acts

theorem countedTicks_append (acts : List (Act τ)) (a : Act τ) :
    countedTicks (acts ++ [a]) =
      countedTicks acts ++ if phaseAfter acts = .running then a.tick?.toList else [] := by
  -- Whether an act counts is told from the acts before it.
  have hold : ∀ i ∈ List.range acts.length,
      (if phaseAfter ((acts ++ [a]).take i) = .running then (acts ++ [a])[i]?.bind Act.tick?
        else none) =
      if phaseAfter (acts.take i) = .running then acts[i]?.bind Act.tick? else none := by
    intro i hi
    have hi : i < acts.length := List.mem_range.1 hi
    rw [List.take_append_of_le_length (by omega), List.getElem?_append_left hi]
  rw [countedTicks, List.length_append, List.length_singleton, List.range_succ,
    List.filterMap_append, List.filterMap_congr hold, ← countedTicks]
  congr 1
  by_cases hrun : phaseAfter acts = .running
  · cases a <;> simp [hrun]
  · simp [hrun]

variable [AddCommGroup τ]

/-- What has been counted, and what has been sought forward less what has been sought back. -/
def total (acts : List (Act τ)) : τ :=
  (countedTicks acts).sum + (acts.filterMap Act.forward?).sum - (acts.filterMap Act.back?).sum

/-- What an act adds to the value of a clock in a phase; a reset aside. -/
@[simp] def Act.adds (p : Phase) : Act τ → τ
  | .tick ms => if p = .running then ms else 0
  | .seekForward ms => ms
  | .seekBack ms => -ms
  | .start | .stop | .reset => 0

theorem total_append (acts : List (Act τ)) (a : Act τ) :
    total (acts ++ [a]) = total acts + a.adds (phaseAfter acts) := by
  have hsum : total (acts ++ [a]) = total acts +
      ((if phaseAfter acts = .running then a.tick?.toList else []).sum +
        (a.forward?.toList.sum - a.back?.toList.sum)) := by
    have hone : ∀ f : Act τ → Option τ, [a].filterMap f = (f a).toList := by
      intro f
      cases h : f a <;> simp [h]
    simp only [total, countedTicks_append, List.filterMap_append, List.sum_append, hone]
    abel
  rw [hsum]
  cases a with
  | tick ms => by_cases hrun : phaseAfter acts = .running <;> simp [hrun]
  | _ => simp

end

/-! ## A clock and its source -/

variable [AddCommGroup τ]

/-- A clock with what its source reads. -/
structure Timer (τ : Type) where
  reading : τ
  clock : Clock τ
  deriving DecidableEq, Repr

namespace Timer

/-- A clock that is made while its source reads `origin`. -/
def made (origin : τ) : Timer τ := ⟨origin, .new⟩

def shown (t : Timer τ) : τ := t.clock.elapsed t.reading

def after (t : Timer τ) : Act τ → Timer τ
  | .tick ms => { t with reading := t.reading + ms }
  | .start => { t with clock := t.clock.start t.reading }
  | .stop => { t with clock := t.clock.stop t.reading }
  | .reset => { t with clock := .new }
  | .seekForward ms => { t with clock := t.clock.seekForward ms }
  | .seekBack ms => { t with clock := t.clock.seekBack ms }

def run (t : Timer τ) (acts : List (Act τ)) : Timer τ := acts.foldl after t

theorem run_append (t : Timer τ) (acts : List (Act τ)) (a : Act τ) :
    t.run (acts ++ [a]) = (t.run acts).after a := by
  rw [run, List.foldl_append]
  rfl

theorem shown_after {a : Act τ} (h : a ≠ .reset) (t : Timer τ) :
    (t.after a).shown = t.shown + a.adds t.clock.phase := by
  cases a with
  | reset => exact absurd rfl h
  | tick ms =>
    cases hc : t.clock with
    | running origin =>
      simp only [shown, after, hc, elapsed, phase, Act.adds, if_true]
      abel
    | paused value => simp [shown, after, hc, elapsed, phase]
    | reset value => simp [shown, after, hc, elapsed, phase]
  | start => simp [shown, after]
  | stop => simp [shown, after]
  | seekForward ms => exact elapsed_seekForward t.reading ms t.clock
  | seekBack ms => exact (elapsed_seekBack t.reading ms t.clock).trans (sub_eq_add_neg ..)

theorem phase_after (t : Timer τ) (a : Act τ) :
    (t.after a).clock.phase = a.next t.clock.phase := by
  obtain ⟨reading, c⟩ := t
  cases a <;> cases c <;> rfl

/-- The past tells what a clock shows and whether it runs. -/
theorem past_made [DecidableEq τ] (origin : τ) (acts : List (Act τ)) :
    ((made origin).run acts).shown = total (sinceReset acts) ∧
      ((made origin).run acts).clock.phase = phaseAfter (sinceReset acts) := by
  -- The last act is a reset, which leaves no past, or it goes on from where the others have led.
  induction acts using List.reverseRecOn with
  | nil => exact ⟨by simp [run, shown, made, total, countedTicks, sinceReset], rfl⟩
  | append_singleton acts a ih =>
    rw [run_append]
    by_cases ha : a = .reset
    · rw [ha, sinceReset_append_reset]
      exact ⟨by simp [shown, after, total, countedTicks], rfl⟩
    · rw [sinceReset_append ha, shown_after ha, phase_after, total_append, phaseAfter_append ha,
        ih.1, ih.2]
      exact ⟨rfl, rfl⟩

end Timer

/-! ## Other numbers -/

section

variable {υ : Type} [AddCommGroup υ] (f : τ →+ υ)

omit [AddCommGroup τ] [AddCommGroup υ] in
/-- The act with other numbers. -/
def Act.map (f : τ → υ) : Act τ → Act υ
  | .tick ms => .tick (f ms)
  | .start => .start
  | .stop => .stop
  | .reset => .reset
  | .seekForward ms => .seekForward (f ms)
  | .seekBack ms => .seekBack (f ms)

/-- The clock with other numbers. -/
def map (f : τ → υ) : Clock τ → Clock υ
  | .running origin => .running (f origin)
  | .paused value => .paused (f value)
  | .reset value => .reset (f value)

namespace Timer

/-- The timer with other numbers. -/
def map (f : τ → υ) (t : Timer τ) : Timer υ := ⟨f t.reading, t.clock.map f⟩

theorem shown_map (t : Timer τ) : (t.map f).shown = f t.shown := by
  obtain ⟨reading, c⟩ := t
  cases c with
  | running origin => exact (map_sub f reading origin).symm
  | paused _ => rfl
  | reset _ => rfl

theorem after_map (t : Timer τ) (a : Act τ) : (t.map f).after (a.map f) = (t.after a).map f := by
  obtain ⟨reading, c⟩ := t
  cases a <;> cases c <;> simp [map, after, Act.map, Clock.map, Clock.start, Clock.stop,
    Clock.seekForward, Clock.seekBack, Clock.new]

theorem run_map (t : Timer τ) (acts : List (Act τ)) :
    (t.map f).run (acts.map (Act.map f)) = (t.run acts).map f := by
  induction acts generalizing t with
  | nil => rfl
  | cons a acts ih =>
    show ((t.map f).after (a.map f)).run _ = ((t.after a).run acts).map f
    rw [after_map, ih]

end Timer

end

/-- What 64 bits keep of an integer. -/
def toInt64 : Int →+ Int64 where
  toFun := Int64.ofInt
  map_zero' := rfl
  map_add' := Int64.ofInt_add

theorem toInt64_apply (i : Int) : toInt64 i = Int64.ofInt i := rfl

/-- A clock that counts in 64 bits shows what is left of the exact value. -/
theorem Timer.toInt_shown (origin : Int64) (acts : List (Act Int64)) :
    ((made origin).run acts).shown.toInt =
      Number.wrapInt64 (total (sinceReset (acts.map (Act.map Int64.toInt)))) := by
  have hacts : (acts.map (Act.map Int64.toInt)).map (Act.map toInt64) = acts := by
    have hact : ∀ a : Act Int64, (a.map Int64.toInt).map toInt64 = a := by
      intro a
      cases a <;> simp [Act.map, toInt64_apply]
    rw [List.map_map]
    exact (List.map_congr_left fun a _ => hact a).trans (List.map_id acts)
  have hmade : made origin = (made origin.toInt).map toInt64 := by
    simp [made, map, toInt64_apply, Clock.map, Clock.new]
  rw [hmade, ← hacts, run_map, shown_map, hacts, (past_made _ _).1]
  rfl

/-! ## A clock kept by two readings -/

/-- What the source read when the clock showed zero, and when it was last stopped. The second is out
of date while the clock runs. -/
structure Marks (τ : Type) where
  zero : τ
  stopped : τ
  phase : Phase
  deriving DecidableEq, Repr

namespace Marks

def made (origin : τ) : Marks τ := ⟨origin, origin, .reset⟩

def elapsed (now : τ) (m : Marks τ) : τ :=
  match m.phase with
  | .running => now - m.zero
  | .paused | .reset => m.stopped - m.zero

def after (reading : τ) (m : Marks τ) : Act τ → Marks τ
  | .tick _ => m
  | .start =>
    if m.phase = .running then m
    else { m with zero := reading - (m.stopped - m.zero), phase := .running }
  | .stop => if m.phase = .running then { m with stopped := reading, phase := .paused } else m
  | .reset => made reading
  | .seekForward ms => { m with zero := m.zero - ms }
  | .seekBack ms => { m with zero := m.zero + ms }

/-- What the source reads after an act. -/
def readingAfter (reading : τ) : Act τ → τ
  | .tick ms => reading + ms
  | _ => reading

/-- Marks beside what the source reads. -/
def run (reading : τ) (m : Marks τ) : List (Act τ) → τ × Marks τ
  | [] => (reading, m)
  | a :: acts => run (readingAfter reading a) (m.after reading a) acts

/-- The clock that is kept so. -/
def clock (m : Marks τ) : Clock τ :=
  match m.phase with
  | .running => .running m.zero
  | .paused => .paused (m.stopped - m.zero)
  | .reset => .reset (m.stopped - m.zero)

theorem elapsed_clock (m : Marks τ) (now : τ) : m.clock.elapsed now = m.elapsed now := by
  unfold clock elapsed
  cases m.phase <;> rfl

theorem phase_clock (m : Marks τ) : m.clock.phase = m.phase := by
  obtain ⟨zero, stopped, phase⟩ := m
  cases phase <;> rfl

theorem clock_made (origin : τ) : (made origin).clock = .new :=
  congrArg Clock.reset (sub_self origin)

theorem clock_after (m : Marks τ) (reading : τ) (a : Act τ) :
    (⟨readingAfter reading a, (m.after reading a).clock⟩ : Timer τ) =
      (⟨reading, m.clock⟩ : Timer τ).after a := by
  obtain ⟨zero, stopped, phase⟩ := m
  -- While the clock stands, a seek moves its zero and not its last stop.
  have hforward : ∀ ms : τ, stopped - (zero - ms) = stopped - zero + ms := fun ms => by abel
  have hback : ∀ ms : τ, stopped - (zero + ms) = stopped - zero - ms := fun ms => by abel
  cases a with
  | tick ms => rfl
  | start => cases phase <;> rfl
  | stop => cases phase <;> rfl
  | reset => exact congrArg (Timer.mk reading) (clock_made reading)
  | seekForward ms =>
    cases phase with
    | running => rfl
    | paused => exact congrArg (fun v => Timer.mk reading (.paused v)) (hforward ms)
    | reset => exact congrArg (fun v => Timer.mk reading (.reset v)) (hforward ms)
  | seekBack ms =>
    cases phase with
    | running => rfl
    | paused => exact congrArg (fun v => Timer.mk reading (.paused v)) (hback ms)
    | reset => exact congrArg (fun v => Timer.mk reading (.reset v)) (hback ms)

/-- The two ways to keep a clock go together. -/
theorem clock_run (reading : τ) (m : Marks τ) (acts : List (Act τ)) :
    (⟨(m.run reading acts).1, (m.run reading acts).2.clock⟩ : Timer τ) =
      (⟨reading, m.clock⟩ : Timer τ).run acts := by
  induction acts generalizing reading m with
  | nil => rfl
  | cons a acts ih =>
    show _ = ((⟨reading, m.clock⟩ : Timer τ).after a).run acts
    rw [← clock_after]
    exact ih _ _

end Marks

namespace Timer

/-- A clock shows what has been counted while it ran and what it has been moved by, since the last
reset; it runs, is paused or is reset as the last start or stop has left it. A start and a stop
leave what it shows. All this goes for a clock that is kept by two readings of its source just as
well: the two show the same and are in the same phase, whatever happens next. -/
theorem run_made [DecidableEq τ] (origin : τ) (acts : List (Act τ)) :
    let t := (made origin).run acts
    (t.shown = total (sinceReset acts) ∧ t.clock.phase = phaseAfter (sinceReset acts) ∧
      (t.after .start).shown = t.shown ∧ (t.after .stop).shown = t.shown) ∧
    let m := (Marks.made origin).run origin acts
    m.1 = t.reading ∧ m.2.elapsed m.1 = total (sinceReset acts) ∧
      m.2.phase = phaseAfter (sinceReset acts) ∧
      (m.2.after m.1 .start).elapsed m.1 = m.2.elapsed m.1 ∧
      (m.2.after m.1 .stop).elapsed m.1 = m.2.elapsed m.1 := by
  intro t
  obtain ⟨hshown, hphase⟩ := past_made origin acts
  have hstart : (t.after .start).shown = t.shown := elapsed_start t.reading t.clock
  have hstop : (t.after .stop).shown = t.shown := elapsed_stop t.reading t.clock
  refine ⟨⟨hshown, hphase, hstart, hstop⟩, ?_⟩
  intro m
  have hrun : (⟨m.1, m.2.clock⟩ : Timer τ) = t := by
    rw [Marks.clock_run, Marks.clock_made]
    rfl
  have hreading : m.1 = t.reading := congrArg Timer.reading hrun
  have hclock : m.2.clock = t.clock := congrArg Timer.clock hrun
  -- What the marks tell, at once or after one more act, is what the clock shows.
  have helapsed : m.2.elapsed m.1 = t.shown := by
    rw [← Marks.elapsed_clock, hclock, hreading]
    rfl
  have hnext : ∀ a, Marks.readingAfter m.1 a = m.1 →
      (m.2.after m.1 a).elapsed m.1 = (t.after a).shown := by
    intro a ha
    have hafter := Marks.clock_after m.2 m.1 a
    rw [ha, hrun] at hafter
    rw [← Marks.elapsed_clock, ← hafter]
    rfl
  refine ⟨hreading, helapsed.trans hshown, ?_, ?_, ?_⟩
  · rw [← Marks.phase_clock, hclock]
    exact hphase
  · rw [hnext .start rfl, hstart, helapsed]
  · rw [hnext .stop rfl, hstop, helapsed]

/-- The second of the pause is not counted, nor is the time before the reset. -/
example :
    ((made (10000 : Int)).run [.start, .tick 700, .reset, .seekBack 40, .start, .tick 300, .stop,
      .tick 1000, .start, .tick 50]).shown = 300 + 50 - 40 := by decide

end Timer

end Clock

end DemoReel
