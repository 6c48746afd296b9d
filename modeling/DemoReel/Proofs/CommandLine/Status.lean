import DemoReel.CommandLine.Program
import DemoReel.CommandLine.Request
import DemoReel.Image.Files
import DemoReel.Xml.Document

/-!
# Exit statuses

What becomes of a call of the program, and with which status it ends. Main statement: the status
tells a script that has run out from all other failures exactly if the command line can be used and
the canvas is not too large for an array (`statusTells_iff`).
-/

namespace DemoReel.CommandLine

/-- What becomes of a call. -/
inductive Fate where
  /-- The command line asks for no more than a notice. -/
  | answered
  /-- The command line cannot be used. -/
  | refused
  /-- There is no manifest to go by, or the script cannot be played with it. -/
  | unprepared (why : Failure)
  /-- The canvas is too large for an array. -/
  | overflow
  /-- The script is played, and the run has come to this end. -/
  | ended (result : Except RunError RunSummary)

/-- The status that a call ends with. -/
def Fate.status : Fate → Nat
  | .answered | .ended (.ok _) => 0
  | .refused | .ended (.error (.exhausted _)) => 2
  | .unprepared _ | .ended (.error _) => 1
  | .overflow => 101

section

variable [Image.Library] (cl : Library) (xml : Xml.Library) (fuel : Nat) (cues : Cues)
  (program : String) (args : List String) (d : Disk)

/-- What becomes of a call, by the steps that it takes as far as it comes. -/
inductive ComesTo : Fate → Prop where
  | answered {notice : Notice} (options : cl program args = .error notice)
    (asked : notice.asked = true) : ComesTo .answered
  | refused {notice : Notice} (options : cl program args = .error notice)
    (asked : notice.asked = false) : ComesTo .refused
  | unread {o : Options} {why : Failure} (options : cl program args = .ok o)
    (manifest : manifestFor xml o d = .error why) : ComesTo (.unprepared why)
  | unloaded {o : Options} {m : Manifest} {why : Failure} {w : World Unit}
    (options : cl program args = .ok o) (manifest : manifestFor xml o d = .ok m)
    (script : load o m d = (.error why, w)) : ComesTo (.unprepared why)
  | overflow {o : Options} {m : Manifest} {s : Scheduler Scene Canvas} {w : World Unit}
    (options : cl program args = .ok o) (manifest : manifestFor xml o d = .ok m)
    (script : load o m d = (.ok s, w))
    (size : ¬ Canvas.Fits (settingsFor o m.settings).width (settingsFor o m.settings).height) :
    ComesTo .overflow
  | ended {o : Options} {m : Manifest} {s : Scheduler Scene Canvas} {w : World Unit} {r : Ready}
    {result : Except RunError RunSummary}
    (options : cl program args = .ok o) (manifest : manifestFor xml o d = .ok m)
    (script : load o m d = (.ok s, w))
    (size : Canvas.Fits (settingsFor o m.settings).width (settingsFor o m.settings).height)
    (prepared : ready o (settingsFor o m.settings) (manifestSummary m) s w = r)
    (run : (r.playback.run fuel (if r.listens then cues else cues.unheard)).1 = some result) :
    ComesTo (.ended result)

/-- The script of the call has run out before its end. -/
def RunsOut : Prop :=
  ∃ frames, ComesTo cl xml fuel cues program args d (.ended (.error (.exhausted frames)))

/-- What the call asks for has been done. -/
inductive Succeeds : Prop where
  | answered (h : ComesTo cl xml fuel cues program args d .answered)
  | played {s : RunSummary} (h : ComesTo cl xml fuel cues program args d (.ended (.ok s)))

/-- The exit status tells a script that has run out from all other failures. -/
structure StatusTells (status : Nat) : Prop where
  exhausted : status = 2 → RunsOut cl xml fuel cues program args d
  failed : ¬ Succeeds cl xml fuel cues program args d → ¬ RunsOut cl xml fuel cues program args d →
    status = 1

end

section

variable [Image.Library] {cl : Library} {xml : Xml.Library} {fuel : Nat} {cues : Cues}
  {program : String} {args : List String} {d : Disk}

/-- A call comes to one fate. -/
theorem ComesTo.unique {f f' : Fate} (h : ComesTo cl xml fuel cues program args d f)
    (h' : ComesTo cl xml fuel cues program args d f') : f = f' := by
  cases h <;> cases h' <;> simp_all

/-! ## Statuses -/

omit [Image.Library] in
theorem status_of_manifestFor {o : Options} {why : Failure} (h : manifestFor xml o d = .error why) :
    why.status = 1 := by
  unfold manifestFor loadManifest at h
  split at h
  · cases h
  · split at h
    · cases h
      rfl
    · next text htext =>
      cases hread : Manifest.ofXml xml text with
      | error fault =>
        rw [hread] at h
        cases h
        rfl
      | ok m =>
        rw [hread] at h
        cases h

theorem status_of_load {o : Options} {m : Manifest} {why : Failure} {w : World Unit}
    (h : load o m d = (.error why, w)) : why.status = 1 := by
  unfold load at h
  dsimp only at h
  split at h
  · cases h
    rfl
  · split at h
    · cases h
      rfl
    · split at h
      · cases h
        rfl
      · cases h

omit [Image.Library] in
/-- How a run ends says all about the status. -/
theorem status_ofRun (result : Except RunError RunSummary) (output : String)
    (p : Playback Scene Canvas) :
    (Outcome.ofRun result output p).status = (Fate.ended result).status := by
  cases result with
  | ok s => rfl
  | error e => cases e <;> rfl

/-- A call that is over has come to a fate, and ends with its status. -/
theorem exists_comesTo {outcome : Outcome} (hcl : cl.Lawful)
    (h : call cl xml fuel cues program args d = some outcome) :
    ∃ f, ComesTo cl xml fuel cues program args d f ∧ outcome.status = f.status := by
  unfold call start at h
  cases options : cl program args with
  | error notice =>
    simp only [options, Option.some.injEq] at h
    subst h
    cases asked : notice.asked with
    | true => exact ⟨.answered, .answered options asked, hcl.answered options asked⟩
    | false => exact ⟨.refused, .refused options asked, hcl.refused options asked⟩
  | ok o =>
    cases manifest : manifestFor xml o d with
    | error why =>
      simp only [options, manifest, Option.some.injEq] at h
      subst h
      exact ⟨.unprepared why, .unread options manifest, status_of_manifestFor manifest⟩
    | ok m =>
      rcases script : load o m d with ⟨_ | s, w⟩
      · simp only [options, manifest, script, Option.some.injEq] at h
        subst h
        exact ⟨_, .unloaded options manifest script, status_of_load script⟩
      · by_cases size :
            Canvas.Fits (settingsFor o m.settings).width (settingsFor o m.settings).height
        · simp only [options, manifest, script, if_pos size, Option.map_eq_some_iff] at h
          obtain ⟨result, run, rfl⟩ := h
          exact ⟨.ended result, .ended options manifest script size rfl run, status_ofRun ..⟩
        · simp only [options, manifest, script, if_neg size, Option.some.injEq] at h
          subst h
          exact ⟨.overflow, .overflow options manifest script size, rfl⟩

theorem statusTells_iff_and {status : Nat} :
    StatusTells cl xml fuel cues program args d status ↔
      (status = 2 → RunsOut cl xml fuel cues program args d) ∧
      (¬ Succeeds cl xml fuel cues program args d →
        ¬ RunsOut cl xml fuel cues program args d → status = 1) :=
  ⟨fun h => ⟨h.exhausted, h.failed⟩, fun h => ⟨h.1, h.2⟩⟩

section

variable {f : Fate} (h : ComesTo cl xml fuel cues program args d f)

include h

theorem ComesTo.iff_eq {f' : Fate} : ComesTo cl xml fuel cues program args d f' ↔ f' = f :=
  ⟨fun h' => h'.unique h, fun heq => heq ▸ h⟩

theorem ComesTo.succeeds_iff :
    Succeeds cl xml fuel cues program args d ↔ f = .answered ∨ ∃ s, f = .ended (.ok s) := by
  constructor
  · rintro (h' | h')
    · exact .inl (h.unique h')
    · exact .inr ⟨_, h.unique h'⟩
  · rintro (rfl | ⟨s, rfl⟩)
    · exact .answered h
    · exact .played h

theorem ComesTo.runsOut_iff :
    RunsOut cl xml fuel cues program args d ↔
      ∃ frames, f = .ended (.error (.exhausted frames)) :=
  ⟨fun ⟨frames, h'⟩ => ⟨frames, h.unique h'⟩, fun ⟨frames, heq⟩ => ⟨frames, heq ▸ h⟩⟩

end

/-- The status tells what has become of a call: 0 if what it asks for has been done, 2 if its script
has run out, but also if the command line cannot be used, and 101 if the canvas is too large for an
array. So the status tells a script that has run out from all other failures exactly if neither of
the last two is the case. -/
theorem statusTells_iff {outcome : Outcome} (hcl : cl.Lawful)
    (h : call cl xml fuel cues program args d = some outcome) :
    (StatusTells cl xml fuel cues program args d outcome.status ↔
        ¬ ComesTo cl xml fuel cues program args d .refused ∧
        ¬ ComesTo cl xml fuel cues program args d .overflow) ∧
      (outcome.status = 0 ↔ Succeeds cl xml fuel cues program args d) ∧
      (outcome.status = 2 ↔
        ComesTo cl xml fuel cues program args d .refused ∨
        RunsOut cl xml fuel cues program args d) ∧
      (outcome.status = 101 ↔ ComesTo cl xml fuel cues program args d .overflow) ∧
      outcome.status ∈ [0, 1, 2, 101] := by
  obtain ⟨f, hf, hstatus⟩ := exists_comesTo hcl h
  -- All four events are told by the fate, so that each fate has its own claims to check.
  rw [hstatus, statusTells_iff_and, hf.succeeds_iff, hf.runsOut_iff, hf.iff_eq, hf.iff_eq]
  cases f with
  | ended result =>
    cases result with
    | ok s => simp [Fate.status]
    | error e => cases e <;> simp [Fate.status]
  | _ => simp [Fate.status]

end

theorem standard_lawful : standard.Lawful := by
  constructor
  · intro program args notice h hasked
    unfold standard at h
    split at h
    · cases h
    · cases h
      rfl
    · cases h
      rfl
    · cases h
      cases hasked
  · intro program args notice h hasked
    unfold standard at h
    split at h
    · cases h
    · cases h
      cases hasked
    · cases h
      cases hasked
    · cases h
      rfl

/-- A script that has an effect in it and no end. -/
theorem statusTells_exhausted :
    let d : Disk := ({} : Disk).put ["d.script"] (.file "0 FX neg 0 50\n".toUTF8)
    let args := ["d.script", "--width", "1", "--height=1", "--controls"]
    let comesTo := ComesTo standard Xml.document? 3 (.still 0) "reel" args d
    standard.Lawful ∧ ∃ outcome,
      call standard Xml.document? 3 (.still 0) "reel" args d = some outcome ∧ outcome.status = 2 ∧
      ¬ comesTo .refused ∧ ¬ comesTo .overflow ∧
      StatusTells standard Xml.document? 3 (.still 0) "reel" args d outcome.status ∧
      RunsOut standard Xml.document? 3 (.still 0) "reel" args d ∧
      ¬ Succeeds standard Xml.document? 3 (.still 0) "reel" args d := by
  intro d args comesTo
  have hcall :
      (call standard Xml.document? 3 (.still 0) "reel" args d).map (·.status) = some 2 := by
    decide +kernel
  obtain ⟨outcome, houtcome, hstatus⟩ := Option.map_eq_some_iff.1 hcall
  obtain ⟨htells, hzero, -, hoverflow, -⟩ := statusTells_iff standard_lawful houtcome
  have hfits : ¬ comesTo .overflow := fun h => by cases hstatus.symm.trans (hoverflow.2 h)
  have husable : ¬ comesTo .refused := by
    intro h
    cases h with
    | refused options asked => cases options
  have htold := htells.2 ⟨husable, hfits⟩
  refine ⟨standard_lawful, outcome, houtcome, hstatus, husable, hfits, htold,
    htold.exhausted hstatus, fun hsucceeds => ?_⟩
  cases hstatus.symm.trans (hzero.2 hsucceeds)

/-- An option that there is none, on a command line with a script that has an end. -/
theorem not_statusTells_refused :
    let d : Disk := ({} : Disk).put ["d.script"] (.file "0 END\n".toUTF8)
    let args := ["d.script", "--bogus"]
    ∃ outcome, call standard Xml.document? 3 (.still 0) "reel" args d = some outcome ∧
      outcome.status = 2 ∧ Request.ofArgs args = .error (.unknownOption "--bogus") ∧
      ¬ RunsOut standard Xml.document? 3 (.still 0) "reel" args d ∧
      ¬ StatusTells standard Xml.document? 3 (.still 0) "reel" args d outcome.status := by
  intro d args
  have hout : ¬ RunsOut standard Xml.document? 3 (.still 0) "reel" args d := by
    rintro ⟨frames, h⟩
    cases h with
    | ended options => cases options
  exact ⟨_, rfl, rfl, rfl, hout, fun htells => hout (htells.exhausted rfl)⟩

end DemoReel.CommandLine
