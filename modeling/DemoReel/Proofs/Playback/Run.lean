import DemoReel.Proofs.Playback.Requests
import DemoReel.Proofs.Playback.Session

/-!
# Frame after frame

A run renders frames until one of them ends it. Main statements: a run with enough fuel stops at the
first frame that ends it (`runFrames_of_verdict`), and it stops nowhere else
(`exists_verdict_of_runFrames`).
-/

namespace DemoReel

variable {π σ : Type}

namespace Playback

/-- Playback of a session by a player. -/
def ofSession (player : Player) (ss : Session π σ) : Playback π σ :=
  ⟨player, ss.scheduler, ss.world⟩

/-- What comes from outside while nobody asks for anything: the readings of the source. -/
def quiet (reading : Nat → Int64) (n : Nat) : Cue := { reading := reading n }

variable [Graphics σ] [Part π σ]

/-- Playback when `n` more frames have been rendered, whatever they have said. -/
def after (cues : Nat → Cue) : Nat → Playback π σ → Playback π σ
  | 0, p => p
  | n + 1, p => after (fun k => cues (k + 1)) n (p.frame (cues 0)).2

/-- Frame number `n`, counted from here. -/
def frameAt (cues : Nat → Cue) (n : Nat) (p : Playback π σ) :
    Except RunError FrameStatus × Playback π σ :=
  (p.after cues n).frame (cues n)

/-- What ends a run after frame number `n`, if that frame ends it. -/
def verdictAt (cues : Nat → Cue) (n : Nat) (p : Playback π σ) :
    Option (Except RunError RunSummary × List Event) :=
  (p.frameAt cues n).2.verdict (cues n).stops (p.frameAt cues n).1

theorem after_succ (cues : Nat → Cue) (n : Nat) (p : Playback π σ) :
    p.after cues (n + 1) = (p.frameAt cues n).2 := by
  induction n generalizing p cues with
  | zero => rfl
  | succ n ih => exact ih (fun k => cues (k + 1)) (p.frame (cues 0)).2

/-- A playback that has reported what ended it. -/
def told (p : Playback π σ) (events : List Event) : Playback π σ :=
  { p with world := p.world.noteAll events }

theorem runFrames_of_open {fuel : Nat} {cues : Nat → Cue} {p : Playback π σ}
    (h : ∀ i < fuel, p.verdictAt cues i = none) : (p.runFrames fuel cues).1 = none := by
  induction fuel generalizing p cues with
  | zero => rfl
  | succ fuel ih =>
    have hnow : (p.frame (cues 0)).2.verdict (cues 0).stops (p.frame (cues 0)).1 = none :=
      h 0 (by omega)
    simp only [runFrames, turn, hnow]
    exact ih fun i hi => h (i + 1) (by omega)

theorem verdictAt_eq_none_of_runFrames {fuel : Nat} {cues : Nat → Cue} {p : Playback π σ}
    (h : (p.runFrames fuel cues).1 = none) :
    ∀ i < fuel, p.verdictAt cues i = none := by
  induction fuel generalizing p cues with
  | zero => simp
  | succ fuel ih =>
    cases hnow : (p.frame (cues 0)).2.verdict (cues 0).stops (p.frame (cues 0)).1 with
    | some ended => simp [runFrames, turn, hnow] at h
    | none =>
      simp only [runFrames, turn, hnow] at h
      intro i hi
      cases i with
      | zero => exact hnow
      | succ i => exact ih h i (Nat.lt_of_succ_lt_succ hi)

theorem runFrames_of_verdict {m fuel : Nat} {cues : Nat → Cue} {p : Playback π σ}
    {outcome : Except RunError RunSummary} {events : List Event}
    (hopen : ∀ i < m, p.verdictAt cues i = none)
    (h : p.verdictAt cues m = some (outcome, events)) (hfuel : m < fuel) :
    p.runFrames fuel cues = (some outcome, (p.frameAt cues m).2.told events) := by
  induction m generalizing p cues fuel with
  | zero =>
    obtain ⟨fuel, rfl⟩ : ∃ k, fuel = k + 1 := ⟨fuel - 1, by omega⟩
    have hnow : (p.frame (cues 0)).2.verdict (cues 0).stops (p.frame (cues 0)).1 =
        some (outcome, events) := h
    simp only [runFrames, turn, hnow]
    rfl
  | succ m ih =>
    obtain ⟨fuel, rfl⟩ : ∃ k, fuel = k + 1 := ⟨fuel - 1, by omega⟩
    have hnow : (p.frame (cues 0)).2.verdict (cues 0).stops (p.frame (cues 0)).1 = none :=
      hopen 0 (by omega)
    simp only [runFrames, turn, hnow]
    exact ih (fun i hi => hopen (i + 1) (by omega)) h (by omega)

/-- A run that has stopped has stopped at the first frame that ended it. -/
theorem exists_verdict_of_runFrames {fuel : Nat} {cues : Nat → Cue} {p q : Playback π σ}
    {outcome : Except RunError RunSummary} (h : p.runFrames fuel cues = (some outcome, q)) :
    ∃ m events, (∀ i < m, p.verdictAt cues i = none) ∧
      p.verdictAt cues m = some (outcome, events) ∧
      q = (p.frameAt cues m).2.told events := by
  induction fuel generalizing p cues with
  | zero => simp [runFrames] at h
  | succ fuel ih =>
    cases hnow : (p.frame (cues 0)).2.verdict (cues 0).stops (p.frame (cues 0)).1 with
    | some ended =>
      obtain ⟨outcome', events⟩ := ended
      simp only [runFrames, turn, hnow, Prod.mk.injEq, Option.some.injEq] at h
      obtain ⟨rfl, rfl⟩ := h
      exact ⟨0, events, by simp, hnow, rfl⟩
    | none =>
      simp only [runFrames, turn, hnow] at h
      obtain ⟨m, events, hopen, hverdict, hq⟩ := ih h
      refine ⟨m + 1, events, fun i hi => ?_, hverdict, hq⟩
      cases i with
      | zero => exact hnow
      | succ i => exact hopen i (by omega)

end Playback

end DemoReel
