import DemoReel.Proofs.Clock.Stopwatch
import DemoReel.Proofs.Playback.Twins

/-!
# Going back

A script that is opened again is carried out anew, on the parts as they have become: names and
settings stay as commands have left them. Main statement: after going back, a drain does what it
would do on a new scheduler with the stopped parts, and it does what it did at first exactly if the
parts still have the names and settings they had at first (`replays_iff`). Only a clock that stands
at the last moment of all cannot be moved back far enough to tell.
-/

namespace DemoReel

open Number Number.Wrapping
open World (Loaded LoadAlike LoadsByPath)

variable {π σ : Type} [Graphics σ]

namespace Session

variable {content : String} {st₀ st₀' : Stage π σ} {ss ss' : Session π σ}

/-! ## What the backend still answers -/

/-- A session comes from its opening by loads. -/
theorem Follows.loaded (h : ss.Follows .standard content st₀)
    (hw : LoadAlike st₀.world st₀.world) : ∃ calls, Loaded st₀.world calls ss.world := by
  obtain ⟨left, reader, -, -, hplays⟩ := h.plays
  obtain ⟨timed, -, -, hcarried⟩ := hplays.carried
  -- A run is its own twin.
  have hself := hcarried.twins hcarried hw (.refl rfl) List.prefix_rfl (a := .timeless)
    (fun _ _ _ _ => rfl)
  obtain ⟨es, calls, hgrown, -⟩ := (hself.2 rfl).grown
  exact ⟨calls, hgrown.loaded⟩

theorem Follows.run_loadsByPath {answer : (c : Call) → c.Reply}
    (h : ss.Follows .standard content st₀) (hw : st₀.world.LoadsByPath answer)
    (orders : List Order) :
    (ss.run orders).world.LoadsByPath answer := by
  induction orders generalizing ss st₀ with
  | nil =>
    obtain ⟨calls, hloaded⟩ := h.loaded (hw.alike hw)
    exact hw.after_loads hloaded
  | cons order orders ih =>
    obtain ⟨st₁, h₁, hst₁⟩ := h.perform order
    refine ih h₁ ?_
    rcases hst₁ with rfl | ⟨journal, hworld⟩
    · exact hw
    · obtain ⟨calls, hloaded⟩ := h.loaded (hw.alike hw)
      rw [hworld]
      exact hw.after_loads (hloaded.withJournal journal)

/-! ## What can be seen after a drain -/

/-- What can be seen of playback after a drain, but for the parts themselves and the numbers of
effects. -/
@[ext] structure View where
  report : Option (Except ScriptError DrainReport)
  parts : NameMap (Unit × PartSettings × PartStatus)
  effects : List ImageEffect
  ended : Bool

def view (ss : Session π σ) : View where
  report := ss.drains.getLast?.map (·.report)
  parts := ss.scheduler.registry.seen .partless
  effects := ss.scheduler.timeline.effects.map (·.2)
  ended := ss.scheduler.ended

/-- The view of a session after one more drain. -/
def viewAt (ss : Session π σ) (time : Int) : View := (ss.perform (.drain time)).view

/-- A session that has just opened a script, for the first time or again. -/
structure Fresh (content : String) (ss : Session π σ) : Prop where
  follows : ss.Follows .standard content ss.stage
  drains : ss.drains = []

theorem fresh_opened (content : String) (s : Scheduler π σ) (w : World σ)
    (hs : s.table = .standard) : (opened content s w).Fresh content := by
  have hopened := follows_opened content s w
  rw [hs] at hopened
  exact ⟨hopened, rfl⟩

theorem Follows.fresh_seekBack (h : ss.Follows .standard content st₀) (ms reading : Int64) :
    (ss.perform (.seekBack ms reading)).Fresh content := by
  have hmoved := h.moved ms
  refine ⟨hmoved.restart reading, ?_⟩
  rw [perform_seekBack, hmoved.restart_eq]

/-- What a first drain reports is what it has tried. -/
theorem Fresh.report (h : ss.Fresh content) (time : Int) :
    ∃ status, (ss.perform (.drain time)).status? = some status ∧
      (ss.viewAt time).report =
        some (.ok ⟨(past (ss.perform (.drain time)).drains).map Attempt.record, status⟩) := by
  obtain ⟨left, reader, -, -, hplays⟩ := (h.follows.drain time).plays
  obtain ⟨d, hd⟩ : ∃ d, (ss.perform (.drain time)).drains = [d] := by
    simp [perform, h.drains]
  obtain ⟨front, d', status, hsplit, hreport, -⟩ := hplays.last (by simp [hd])
  have hone : [] ++ [d] = front ++ [d'] := hd.symm.trans hsplit
  obtain ⟨rfl, hlast⟩ := List.append_inj' hone rfl
  obtain rfl : d = d' := (List.cons.inj hlast).1
  refine ⟨status, ?_, ?_⟩
  · rw [status?, hd, List.getLast?_singleton, Option.bind_some, hreport]
    rfl
  · rw [viewAt, view, hd, past_singleton, ← hreport]
    rfl

/-- Sessions that look alike when they have just opened a script look alike after a drain. -/
theorem Fresh.viewAt_eq (h : ss.Fresh content) (h' : ss'.Fresh content)
    (hw : LoadAlike ss.world ss'.world)
    (hseen : ss.scheduler.registry.seen .partless = ss'.scheduler.registry.seen .partless)
    (heffects : ss.scheduler.timeline.effects.map (·.2) =
      ss'.scheduler.timeline.effects.map (·.2)) (time : Int) :
    ss.viewAt time = ss'.viewAt time := by
  have htime : ∀ {ss : Session π σ}, ss.Fresh content →
      ∀ d ∈ (ss.perform (.drain time)).drains, d.time = time := by
    intro ss h d hd
    simp only [perform, h.drains, List.nil_append, List.mem_singleton] at hd
    rw [hd]
  obtain ⟨hpast, hended, ⟨hseen₁, es, calls, hgrown, hgrown'⟩, status, hstatus, hstatus'⟩ :=
    (h.follows.drain time).twins (h'.follows.drain time) hw hseen (upTo_drain h.drains time)
      (upTo_drain h'.drains time) fun d hd d' hd' => by rw [htime h d hd, htime h' d' hd']
  obtain ⟨status₁, hstatus₁, hreport⟩ := h.report time
  obtain ⟨status₁', hstatus₁', hreport'⟩ := h'.report time
  have hreports : (ss.viewAt time).report = (ss'.viewAt time).report := by
    rw [hstatus] at hstatus₁
    rw [hstatus'] at hstatus₁'
    cases hstatus₁
    cases hstatus₁'
    rw [hreport, hreport', hpast]
  have heffects₁ : (ss.viewAt time).effects = (ss'.viewAt time).effects := by
    have hgrowth := hgrown.effects.trans (congrArg (· ++ es) heffects)
    exact hgrowth.trans hgrown'.effects.symm
  exact View.ext hreports hseen₁ heffects₁ hended

/-! ## What stays -/

/-- A drain before the start of the script leaves the parts as they are. -/
theorem Fresh.parts_viewAt_of_neg (h : ss.Fresh content) {time : Int} (htime : time < 0) :
    (ss.viewAt time).parts = ss.scheduler.registry.seen .partless := by
  obtain ⟨left, reader, -, -, hplays⟩ := (h.follows.drain time).plays
  have hupTo : UpTo time (ss.perform (.drain time)).drains := upTo_drain h.drains time
  have hnothing : past (ss.perform (.drain time)).drains = [] := by
    refine List.eq_nil_iff_forall_not_mem.2 fun x hx => ?_
    have hle := hplays.due_le hupTo.2 x hx
    have hmem : x.command ∈ Script.commandsOf content := by
      rw [hplays.split]
      exact List.mem_append_left _ (List.mem_map_of_mem hx)
    have hnonneg := Script.due_nonneg_of_mem_commandsOf hmem
    omega
  -- Without a command nothing is changed but the journal.
  obtain ⟨timed, hpast, -, hcarried⟩ := hplays.carried
  obtain rfl : timed = [] := List.map_eq_nil_iff.1 (hpast.trans hnothing)
  generalize hst : (ss.perform (.drain time)).stage = st at hcarried
  have hregistry : st.registry = ss.scheduler.registry := by
    cases hcarried
    rfl
  rw [← hregistry, ← hst]
  rfl

/-- What going back by `ms` makes of a session. -/
structure WentBack (ms : Int64) (ss back : Session π σ) : Prop where
  registry : back.scheduler.registry = ss.scheduler.registry.stopAll
  effects : back.scheduler.timeline.effects = []
  world : ∃ journal, back.world = ss.world.withJournal journal
  elapsed : ∀ reading,
    back.scheduler.clock.elapsed reading = ss.scheduler.clock.elapsed reading - ms

theorem Follows.wentBack (h : ss.Follows .standard content st₀) (ms reading : Int64) :
    WentBack ms ss (ss.perform (.seekBack ms reading)) := by
  rw [perform_seekBack, (h.moved ms).restart_eq]
  refine ⟨rfl, rfl, ⟨_, rfl⟩, fun reading' => ?_⟩
  exact Clock.elapsed_seekBack reading' ms ss.scheduler.clock

/-- However far a session goes back, a drain at the time that the clock shows then gives the view
that it gives right after `first`. -/
def Replays (first ss : Session π σ) : Prop :=
  ∀ ms reading reading', 0 ≤ ms →
    let back := ss.perform (.seekBack ms reading)
    back.viewAt (back.scheduler.now reading') = first.viewAt (back.scheduler.now reading')

/-- Unless a clock stands at the last moment of all, it can be moved back to before the start of
the script. -/
theorem Follows.exists_before (h : ss.Follows .standard content st₀) {reading : Int64}
    (hnow : ss.scheduler.now reading < maxInt64) :
    ∃ ms : Int64, 0 ≤ ms ∧ (ss.perform (.seekBack ms reading)).scheduler.now reading < 0 := by
  let shown := ss.scheduler.clock.elapsed reading
  have hback : ∀ ms, (ss.perform (.seekBack ms reading)).scheduler.now reading =
      (shown - ms).toInt := fun ms => congrArg Int64.toInt ((h.wentBack ms reading).elapsed reading)
  rcases Int.lt_or_le shown.toInt 0 with hneg | hnonneg
  · refine ⟨0, by decide, ?_⟩
    rw [hback, Int64.sub_zero]
    exact hneg
  · have hlt : shown.toInt < maxInt64 := hnow
    have hnext : (shown + 1).toInt = shown.toInt + 1 :=
      toInt_add_of_le (by decide) (Int.add_one_le_of_lt hlt)
    refine ⟨shown + 1, ?_, ?_⟩
    · rw [Int64.le_iff_toInt_le, hnext]
      exact Int.le_add_one hnonneg
    · rw [hback, sub_add_cancel_left]
      decide

/-- Going back carries out the script as a new scheduler would whose parts are the ones that are
left, stopped. So it shows what was shown at first exactly if these have the names and settings that
the parts had at first: neither renaming nor a change of settings is taken back. Only if the clock
stands at the last moment of all, where it cannot be moved back to before the script, may it be that
nobody notices. -/
theorem replays_iff (content : String) (s : Scheduler π σ) (w : World σ)
    {answer : (c : Call) → c.Reply} (hs : s.table = .standard)
    (hidle : s.registry.runningNames = []) (hempty : s.timeline.effects = [])
    (hw : w.LoadsByPath answer) (orders : List Order) :
    let first := opened content s w
    let ss := first.run orders
    (∀ ms reading time, (ss.perform (.seekBack ms reading)).viewAt time =
      (opened content { s with registry := ss.scheduler.registry.stopAll } w).viewAt time) ∧
    (ss.scheduler.registry.profile = s.registry.profile → Replays first ss) ∧
    ((∃ reading, ss.scheduler.now reading < maxInt64) → Replays first ss →
      ss.scheduler.registry.profile = s.registry.profile) := by
  intro first ss
  have hfirst : first.Fresh content := fresh_opened content s w hs
  obtain ⟨st₀, hss⟩ : ∃ st₀, ss.Follows .standard content st₀ := hfirst.follows.run orders
  have hload : ss.world.LoadsByPath answer :=
    hfirst.follows.run_loadsByPath (hw.after_loads (.done w (w.journal.push .scriptLoaded))) orders
  -- Going back shows what any scheduler shows whose parts look like the stopped ones.
  have hview : ∀ ms reading time (r : Registry π),
      ss.scheduler.registry.stopAll.seen .partless = r.seen .partless →
        (ss.perform (.seekBack ms reading)).viewAt time =
          (opened content { s with registry := r } w).viewAt time := by
    intro ms reading time r hr
    have hback := hss.wentBack ms reading
    obtain ⟨journal, hworld⟩ := hback.world
    have hanew : (opened content { s with registry := r } w).Fresh content :=
      fresh_opened content { s with registry := r } w hs
    refine (hss.fresh_seekBack ms reading).viewAt_eq hanew ?_ ?_ ?_ time
    · rw [hworld]
      exact (hload.after_loads (.done ss.world journal)).alike
        (hw.after_loads (.done w (w.journal.push .scriptLoaded)))
    · rw [hback.registry]
      exact hr
    · rw [hback.effects]
      exact (congrArg (List.map (·.2)) hempty).symm
  have hstopped : s.registry.stopAll = s.registry := Registry.stopAll_of_runningNames hidle
  refine ⟨fun ms reading time => hview ms reading time _ rfl, ?_, ?_⟩
  · intro hprofile ms reading reading' _
    refine hview ms reading _ s.registry ?_
    rw [Registry.seen_stopAll_iff.2 hprofile, hstopped]
  · rintro ⟨reading, hnow⟩ hreplays
    -- Before the start of the script there is nothing to see but the parts as they are.
    obtain ⟨ms, hms, hbefore⟩ := hss.exists_before hnow
    have hparts := congrArg View.parts (hreplays ms reading reading hms)
    rw [(hss.fresh_seekBack ms reading).parts_viewAt_of_neg hbefore,
      hfirst.parts_viewAt_of_neg hbefore, (hss.wentBack ms reading).registry] at hparts
    rw [← Registry.seen_stopAll_iff, hstopped]
    exact hparts

/-- A scheduler with one part, and a backend without files. -/
def onePart : Scheduler Unit Catalog where
  table := .standard
  registry := ⟨NameMap.empty.insert "a" ⟨(), {}, .idle⟩⟩

def noFiles : World Catalog := { gfx := ⟨[]⟩ }

/-- A part that was started and stopped can be shown anew. -/
theorem replays_start_and_end :
    onePart.registry.runningNames = [] ∧ onePart.timeline.effects = [] ∧
      noFiles.LoadsByPath noFiles.gfx.answer ∧
      let first := opened "0 START_PART a\n10 END_PART a\n20 END\n" onePart noFiles
      Replays first (first.run [.drain 0, .seekForward 30, .drain 30]) := by
  refine ⟨rfl, rfl, Catalog.loadsByPath noFiles, ?_⟩
  have hreplays := (replays_iff "0 START_PART a\n10 END_PART a\n20 END\n" onePart noFiles rfl rfl
    rfl (Catalog.loadsByPath noFiles) [.drain 0, .seekForward 30, .drain 30]).2.1
  refine hreplays (NameMap.ext ?_)
  decide +kernel

/-- A part that was renamed cannot be started anew under its first name. -/
theorem not_replays_rename :
    onePart.registry.runningNames = [] ∧ onePart.timeline.effects = [] ∧
      noFiles.LoadsByPath noFiles.gfx.answer ∧
      let first := opened "0 START_PART a\n10 RENAME_PART a b\n" onePart noFiles
      ¬ Replays first (first.run [.seekForward 20, .drain 20]) := by
  refine ⟨rfl, rfl, Catalog.loadsByPath noFiles, fun hreplays => ?_⟩
  have hparts := congrArg (·.parts.names) (hreplays 15 0 0 (by decide))
  revert hparts
  decide +kernel

end Session

end DemoReel
