import DemoReel.Proofs.Playback.Twins

/-!
# The pace of playback

How often a script is drained, and in which order, makes no difference but for the times at which
parts were started. Main statement: several drains do what one drain at the latest of their times
does (`drains_alike`).
-/

namespace DemoReel

open World (LoadAlike LoadsBySequence)

variable {π σ μ : Type} [Graphics σ]

namespace Session

/-- Two sessions that have come to the same point of a script: the same parts under the same names,
with the same settings, of which the same run; the same effects under the same numbers; the same
calls on record; and the last drains told the same. -/
structure SamePoint (ss ss' : Session π (Recorder μ σ)) : Prop where
  ended : ss.scheduler.ended = ss'.scheduler.ended
  parts : ss.scheduler.registry.seen .timeless = ss'.scheduler.registry.seen .timeless
  timeline : ss.scheduler.timeline = ss'.scheduler.timeline
  entries : ss.world.gfx.entries = ss'.world.gfx.entries
  status : ∃ status, ss.status? = some status ∧ ss'.status? = some status

/-- A script that is drained at several times in any order comes to the point to which one drain at
the latest of them brings it, if what the backend answers to a load depends on the loads before it
and nothing else. -/
theorem drains_alike (content : String) (s : Scheduler π (Recorder μ σ))
    (w : World (Recorder μ σ)) (hs : s.table = .standard) (hw : w.behind.LoadsBySequence)
    {times : List Int} {latest : Int} (hmem : latest ∈ times) (hmax : ∀ t ∈ times, t ≤ latest) :
    SamePoint ((opened content s w).run (times.map .drain))
      ((opened content s w).run [.drain latest]) := by
  have hopened := follows_opened content s w
  rw [hs] at hopened
  have hmany := hopened.drain_all times
  have honce := hopened.drain_all [latest]
  have hload : LoadAlike (opened content s w).world (opened content s w).world :=
    Recorder.loadAlike_of_behind
      (hw.after_loads (.done w.behind _) (.done w.behind (w.journal.push .scriptLoaded)))
  obtain ⟨-, hended, ⟨hseen, es, calls, hgrown, hgrown'⟩, hstatus⟩ :=
    hmany.twins honce hload rfl (upTo_drain_all rfl hmem hmax) (upTo_drain rfl latest)
      (a := .timeless) (fun _ _ _ _ => rfl)
  refine ⟨hended, hseen, hgrown.timeline.trans hgrown'.timeline.symm, ?_, hstatus⟩
  -- Both records have grown by the same loads.
  have hentries := (Recorder.loaded_behind hgrown.loaded).2
  have hentries' := (Recorder.loaded_behind hgrown'.loaded).2
  exact Array.toList_inj.1 (hentries.trans hentries'.symm)

/-- Three drains, the second of which is the latest. -/
theorem drains_alike_three :
    let s : Scheduler Unit (Recorder Empty Rehearsal) :=
      { table := .standard, registry := ⟨NameMap.empty.insert "a" ⟨(), {}, .idle⟩⟩ }
    let w : World (Recorder Empty Rehearsal) := { gfx := { inner := {} } }
    let times : List Int := [5, 15, 10]
    let first := opened "0 START_PART a\n10 FX overlay 10 5 x.png\n20 END\n" s w
    w.behind.LoadsBySequence ∧ 15 ∈ times ∧ (∀ t ∈ times, t ≤ 15) ∧
      SamePoint (first.run (times.map .drain)) (first.run [.drain 15]) := by
  intro s w times first
  have hw : w.behind.LoadsBySequence := Rehearsal.loadsBySequence w.behind
  have hmem : 15 ∈ times := by decide
  have hmax : ∀ t ∈ times, t ≤ 15 := by decide
  exact ⟨hw, hmem, hmax, drains_alike _ s w rfl hw hmem hmax⟩

end Session

end DemoReel
