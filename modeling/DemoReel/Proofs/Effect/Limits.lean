import DemoReel.Proofs.Effect.Pruning
import DemoReel.Proofs.Number.Wraparound

/-!
# Effects at the limits of 64-bit time

Starts, durations and times are 64-bit integers, and the end of a window is cut off where they end.
What is drawn goes by the exact end all the same (`Window.contains_iff_lt_min`), and differences of
times are only taken where they cannot wrap around. Main statement: an effect
keeps within these limits whatever its start and its duration are (`Effect.withinLimits`).
-/

namespace DemoReel

open Number

/-! ## Windows -/

namespace Window

variable {w : Window} {time : Int}

/-- A moment in 64 bits lies in the window if it lies before its exact end and is not the last
one of all. -/
theorem contains_iff_lt_min (hs : minInt64 ≤ w.start) :
    w.contains time = true ↔ w.start ≤ time ∧ time < min (w.start + w.duration) maxInt64 := by
  rw [contains_iff]
  unfold stop clampInt64
  unfold minInt64 maxInt64 at *
  omega

theorem duration_pos_of_contains (h : w.contains time = true) (hs : minInt64 ≤ w.start) :
    0 < w.duration := by
  have := position_of_contains h hs
  omega

/-- A window that does not end before it starts divides time into three parts. -/
theorem count_phases (hs : minInt64 ≤ w.start) (hs' : w.start ≤ maxInt64) (hd : 0 ≤ w.duration) :
    [decide (time < w.start), w.contains time, w.expired time].count true = 1 := by
  have hstop : w.start ≤ w.stop := by
    unfold stop clampInt64
    unfold minInt64 maxInt64 at *
    omega
  rcases Int.lt_or_le time w.start with hbefore | hstarted
  · have hclosed : w.contains time = false := by
      simp only [contains, Bool.and_eq_false_iff, decide_eq_false_iff_not]
      omega
    have hfuture : w.expired time = false := by
      simp only [expired, decide_eq_false_iff_not]
      omega
    simp [hbefore, hclosed, hfuture]
  · have hafter : ¬ time < w.start := by omega
    rcases contains_or_expired hstarted with hopen | hover
    · simp [hafter, hopen, not_expired_of_contains hopen]
    · have hclosed : w.contains time = false := by
        cases hopen : w.contains time with
        | false => rfl
        | true =>
          rw [not_expired_of_contains hopen] at hover
          cases hover
      simp [hafter, hclosed, hover]

end Window

/-! ## Effects -/

/-- Every kind of effect has something to draw. -/
theorem EffectContent.quads_ne_nil (content : EffectContent Texture ShaderId) (window : Window)
    (time : Int) : content.quads window time ≠ [] := by
  cases content with
  | fade first firstTexture second secondTexture => cases secondTexture <;> simp [quads]
  | _ => simp [quads]

namespace Effect

theorem quads_ne_nil_iff {e : ImageEffect} {time : Int} :
    e.quads time ≠ [] ↔ e.window.contains time = true := by
  cases h : e.window.contains time with
  | true => simp [quads_of_contains h, EffectContent.quads_ne_nil]
  | false => simp [quads_of_not_contains h]

/-- The effect `e`, which starts at `start` and lasts for `duration`, at 64-bit times. -/
structure WithinLimits (start duration : Int64) (e : ImageEffect) : Prop where
  /-- What the backend is asked for is what there is to draw, and the answer tells whether there is
  anything. -/
  calls : ∀ (time : Int64) (μ σ : Type) [Graphics σ] (w : World (Recorder μ σ)),
    (e.draw time.toInt w).2.entries =
      w.entries ++ (e.quads time.toInt).map (fun q => .inl (.draw q)) ∧
    ((e.draw time.toInt w).1 = true ↔ e.quads time.toInt ≠ [])
  /-- It draws from its start on, up to its exact end or to the last moment of all. -/
  draws_iff : ∀ time : Int64, e.quads time.toInt ≠ [] ↔
    start ≤ time ∧ time.toInt < min (start.toInt + duration.toInt) Int64.maxValue.toInt
  never_draws : duration ≤ 0 → ∀ time : Int64, e.quads time.toInt = []
  /-- Where it draws, the time since the start does not wrap around. It is not negative and less
  than the duration, which is positive, and it is what progress is made of and shaders are told. -/
  position : ∀ time : Int64, e.quads time.toInt ≠ [] →
    0 ≤ time - start ∧ time - start < duration ∧ 0 < duration ∧
    (time - start).toInt = time.toInt - start.toInt ∧
    e.window.progress time.toInt =
      narrow (binary64OfInt (time - start).toInt / binary64OfInt duration.toInt) ∧
    (e.window.params time.toInt).seconds = binary32OfInt (time - start).toInt / 1000
  /-- Every time is before the start, in the window or after it, and only one of these. -/
  phases : 0 ≤ duration → ∀ time : Int64,
    [decide (time < start), e.window.contains time.toInt, e.window.expired time.toInt].count true
      = 1
  /-- What is over stays over. -/
  stays_expired : ∀ time later : Int64, time ≤ later → e.window.expired time.toInt = true →
    e.window.expired later.toInt = true

/-- An effect keeps within the limits of 64-bit time, whatever it shows, wherever it starts and
however long it lasts: also if it ends after the end of all times, or before it starts. -/
theorem withinLimits (start duration : Int64) (content : EffectContent Texture ShaderId) :
    WithinLimits start duration ⟨⟨start.toInt, duration.toInt⟩, content⟩ := by
  have hs : minInt64 ≤ start.toInt := Int64.le_toInt start
  have hs' : start.toInt ≤ maxInt64 := toInt_le_maxInt64 start
  have hmax : Int64.maxValue.toInt = (maxInt64 : Int) := by decide
  refine ⟨fun time μ σ _ w => ?_, fun time => ?_, fun hd time => ?_, fun time hdraws => ?_,
    fun hd time => ?_, fun time later hle hover => ?_⟩
  · rw [draw_eq]
    exact ⟨World.entries_drawAll w _, quads_ne_nil_iff.symm⟩
  · rw [quads_ne_nil_iff, Window.contains_iff_lt_min hs, Int64.le_iff_toInt_le, hmax]
  · by_contra hdraws
    have hpos := Window.duration_pos_of_contains (quads_ne_nil_iff.1 hdraws) hs
    rw [Int64.le_iff_toInt_le] at hd
    exact absurd hpos (Int.not_lt.2 hd)
  · have hopen := quads_ne_nil_iff.1 hdraws
    obtain ⟨hnonneg, hlt⟩ := Window.position_of_contains hopen hs
    have hpos : 0 < duration.toInt := Window.duration_pos_of_contains hopen hs
    have hd : duration.toInt ≤ maxInt64 := toInt_le_maxInt64 duration
    have hsub : (time - start).toInt = time.toInt - start.toInt :=
      toInt_sub_of_le (Int.sub_nonneg.1 hnonneg) (Int.le_of_lt (Int.lt_of_lt_of_le hlt hd))
    refine ⟨?_, ?_, ?_, hsub, ?_, ?_⟩
    · rw [Int64.le_iff_toInt_le, hsub]
      exact hnonneg
    · rw [Int64.lt_iff_toInt_lt, hsub]
      exact hlt
    · exact Int64.lt_iff_toInt_lt.2 hpos
    · rw [hsub, Window.progress, if_neg (Int.not_le.2 hpos)]
    · rw [hsub, Window.params]
  · rw [Int64.le_iff_toInt_le] at hd
    let w : Window := ⟨start.toInt, duration.toInt⟩
    have hphases : [decide (time.toInt < w.start), w.contains time.toInt,
        w.expired time.toInt].count true = 1 := Window.count_phases hs hs' hd
    simpa only [Int64.lt_iff_toInt_lt] using hphases
  · exact Window.expired_mono hover (Int64.le_iff_toInt_le.1 hle)

end Effect

end DemoReel
