import DemoReel.Proofs.Graphics.Loads
import DemoReel.Proofs.Part.Aspect
import DemoReel.Proofs.Playback.Reach
import DemoReel.Proofs.Playback.Standard

/-!
# Two runs of one script

The commands of a script, carried out with the standard table on two stages that look alike. Main
statement: two sessions that have been drained up to the same time have tried the same commands
with the same results, and their stages still look alike (`Plays.twins`).
-/

namespace DemoReel

open World (Loaded LoadAlike)

variable {π σ ρ τ : Type} [Graphics σ] {a : Aspect π ρ τ} {assets : Assets}

namespace Timeline

/-- Puts effects at the end, one after the other. -/
def addAll (t : Timeline) (es : List ImageEffect) : Timeline :=
  es.foldl (fun t e => (t.add e).2) t

theorem effects_addAll (t : Timeline) (es : List ImageEffect) :
    (t.addAll es).effects.map (·.2) = t.effects.map (·.2) ++ es := by
  induction es generalizing t with
  | nil => exact (List.append_nil _).symm
  | cons e es ih =>
    rw [addAll, List.foldl_cons, ← addAll, ih]
    simp [add]

theorem addAll_append (t : Timeline) (es es' : List ImageEffect) :
    t.addAll (es ++ es') = (t.addAll es).addAll es' := List.foldl_append

end Timeline

/-- One stage has grown from another by the effects `es` and the loads `calls`. Nothing is said
about the parts. -/
structure Grown (st : Stage π σ) (es : List ImageEffect) (calls : List Call)
    (st' : Stage π σ) : Prop where
  timeline : st'.timeline = st.timeline.addAll es
  loaded : Loaded st.world calls st'.world

/-- Two stages whose parts look alike, and which have grown from `st₀` and `st₀'` by the same
effects and loads. -/
structure Twins (a : Aspect π ρ τ) (st₀ st₀' st st' : Stage π σ) : Prop where
  seen : st.registry.seen a = st'.registry.seen a
  grown : ∃ es calls, Grown st₀ es calls st ∧ Grown st₀' es calls st'

namespace Grown

variable {st st' : Stage π σ} {es : List ImageEffect} {calls : List Call}

theorem refl (st : Stage π σ) : Grown st [] [] st := ⟨rfl, .done st.world st.world.journal⟩

theorem effects (h : Grown st es calls st') :
    st'.timeline.effects.map (·.2) = st.timeline.effects.map (·.2) ++ es := by
  rw [h.timeline, Timeline.effects_addAll]

theorem withJournal (h : Grown st es calls st') (journal : Journal) :
    Grown st es calls (st'.withJournal journal) :=
  ⟨h.timeline, h.loaded.withJournal journal⟩

/-- What is done to the parts does not count. -/
theorem updated (h : Grown st es calls st') (registry : Registry π) (events : List Event) :
    Grown st es calls
      { st' with registry := registry, world := st'.world.noteAll events } := by
  refine ⟨h.timeline, ?_⟩
  rw [World.noteAll_eq_withJournal]
  exact h.loaded.withJournal _

theorem load {calls' : List Call} {w : World σ} (h : Grown st es calls st')
    (hw : Loaded st'.world calls' w) :
    Grown st es (calls ++ calls') { st' with world := w } :=
  ⟨h.timeline, h.loaded.append hw⟩

theorem add {calls' : List Call} {w : World σ} (h : Grown st es calls st')
    (hw : Loaded st'.world calls' w) (e : ImageEffect) (event : Event) :
    Grown st (es ++ [e]) (calls ++ calls')
      { st' with timeline := (st'.timeline.add e).2, world := w.note event } := by
  refine ⟨?_, (h.loaded.append hw).withJournal (w.journal.push event)⟩
  rw [Timeline.addAll_append, ← h.timeline]
  rfl

end Grown

namespace Twins

variable {st₀ st₀' st st' : Stage π σ}

theorem refl (h : st₀.registry.seen a = st₀'.registry.seen a) : Twins a st₀ st₀' st₀ st₀' :=
  ⟨h, [], [], .refl st₀, .refl st₀'⟩

theorem symm (h : Twins a st₀ st₀' st st') : Twins a st₀' st₀ st' st := by
  obtain ⟨es, calls, hgrown, hgrown'⟩ := h.grown
  exact ⟨h.seen.symm, es, calls, hgrown', hgrown⟩

theorem withJournal (h : Twins a st₀ st₀' st st') (journal journal' : Journal) :
    Twins a st₀ st₀' (st.withJournal journal) (st'.withJournal journal') := by
  obtain ⟨es, calls, hgrown, hgrown'⟩ := h.grown
  exact ⟨h.seen, es, calls, hgrown.withJournal journal, hgrown'.withJournal journal'⟩

theorem loadAlike (h : Twins a st₀ st₀' st st') (hw : LoadAlike st₀.world st₀'.world) :
    LoadAlike st.world st'.world := by
  obtain ⟨es, calls, hgrown, hgrown'⟩ := h.grown
  exact hw.after_loads hgrown.loaded hgrown'.loaded

end Twins

/-! ## One command -/

section

variable {st₀ st₀' st st' : Stage π σ} {time time' : Int}

/-- A command has the same result on two stages and leaves stages that look alike. -/
def SameResult (a : Aspect π ρ τ) (st₀ st₀' : Stage π σ)
    (x x' : Except CommandError Verdict × Stage π σ) : Prop :=
  x.1 = x'.1 ∧ Twins a st₀ st₀' x.2 x'.2

theorem Twins.same (h : Twins a st₀ st₀' st st') (result : Except CommandError Verdict) :
    SameResult a st₀ st₀' (result, st) (result, st') := ⟨rfl, h⟩

/-- Requests to the registry that have the same result make for commands that do. -/
theorem Twins.updating (h : Twins a st₀ st₀' st st')
    {x x' : Except RegistryError (Registry.Update π)}
    (hx : Registry.seenAfter a x = Registry.seenAfter a x') :
    SameResult a st₀ st₀' (Handler.updating x st) (Handler.updating x' st') := by
  cases x with
  | error e =>
    cases x' with
    | error e' =>
      obtain rfl : e = e' := Except.error.inj hx
      exact h.same _
    | ok u' => simp [Registry.seenAfter, Except.map] at hx
  | ok u =>
    cases x' with
    | error e' => simp [Registry.seenAfter, Except.map] at hx
    | ok u' =>
      obtain ⟨es, calls, hgrown, hgrown'⟩ := h.grown
      exact ⟨rfl, Except.ok.inj hx, es, calls, hgrown.updated _ _, hgrown'.updated _ _⟩

theorem Twins.effect (h : Twins a st₀ st₀' st st') (hw : LoadAlike st₀.world st₀'.world)
    (time time' : Int) (c : Command) :
    SameResult a st₀ st₀' (Handler.effect c assets time st)
      (Handler.effect c assets time' st') := by
  obtain ⟨result, calls', v, v', hx, hx', hv, hv'⟩ :=
    Effect.ofArgs_alike (h.loadAlike hw) assets c.args
  obtain ⟨es, calls, hgrown, hgrown'⟩ := h.grown
  simp only [Handler.effect, hx, hx']
  cases result with
  | error why => exact ⟨rfl, h.seen, es, calls ++ calls', hgrown.load hv, hgrown'.load hv'⟩
  | ok e =>
    exact ⟨rfl, h.seen, es ++ [e], calls ++ calls', hgrown.add hv e _, hgrown'.add hv' e _⟩

/-- The times at which a command is carried out on two stages matter only if the times at which
parts were started are looked at. -/
theorem Twins.dispatch (h : Twins a st₀ st₀' st st') (hw : LoadAlike st₀.world st₀'.world)
    (ht : a.status (.running time) = a.status (.running time')) (c : Command)
    (assets : Assets) :
    SameResult a st₀ st₀' (CommandTable.standard.dispatch c assets time st)
      (CommandTable.standard.dispatch c assets time' st') := by
  rw [CommandTable.dispatch_eq_carryOut, CommandTable.dispatch_eq_carryOut]
  cases c.deed with
  | refuse why => exact h.same _
  | finish => exact h.same _
  | ask request =>
    refine h.updating ?_
    cases request with
    | start name => exact Registry.seen_start h.seen name ht
    | stop name => exact Registry.seen_stop h.seen name
    | rename name new => exact Registry.seen_rename h.seen name new
    | configure name f => exact Registry.seen_configure h.seen name f
  | load c => exact h.effect hw time time' c

end

/-! ## Whole runs -/

section

variable {st₀ st₀' st st₁ st' st₁' : Stage π σ}

/-- Of two runs of the same commands, the shorter has the results of the longer. If they are equally
long, they leave stages that look alike. -/
theorem Carried.twins {tried tried' : List (Int × Attempt)}
    (h : Carried .standard assets st tried st₁) (h' : Carried .standard assets st' tried' st₁')
    (hw : LoadAlike st₀.world st₀'.world) (htwins : Twins a st₀ st₀' st st')
    (hfront : tried.map (·.2.command) <+: tried'.map (·.2.command))
    (ht : ∀ p ∈ tried, ∀ p' ∈ tried', a.status (.running p.1) = a.status (.running p'.1)) :
    tried.map (·.2) <+: tried'.map (·.2) ∧
      (tried.length = tried'.length → Twins a st₀ st₀' st₁ st₁') := by
  induction h generalizing st' tried' with
  | done st j =>
    -- What the longer run has besides is of no interest, unless it has nothing.
    refine ⟨List.nil_prefix, fun hlength => ?_⟩
    obtain rfl : tried' = [] := List.length_eq_zero_iff.1 hlength.symm
    cases h' with
    | done _ j' => exact htwins.withJournal j j'
  | @next st st₂ st₁ time c result tried j now later ih =>
    cases h' with
    | done _ j' => simp at hfront
    | @next _ st₂' _ time' c' result' tried' j' now' later' =>
      simp only [List.map_cons, List.cons_prefix_cons] at hfront
      obtain ⟨rfl, hrest⟩ := hfront
      -- The first command leaves twins on both stages, with the same result.
      have hstep := (htwins.withJournal j j').dispatch hw
        (ht (time, ⟨c, result⟩) (by simp) (time', ⟨c, result'⟩) (by simp)) c assets
      rw [now, now'] at hstep
      obtain ⟨rfl, htwins₂⟩ := hstep
      have hlater := ih later' htwins₂ hrest fun p hp p' hp' =>
        ht p (List.mem_cons_of_mem _ hp) p' (List.mem_cons_of_mem _ hp')
      refine ⟨?_, fun hlength => hlater.2 (by simpa using hlength)⟩
      simpa only [List.map_cons, List.cons_prefix_cons, true_and] using hlater.1

end

/-! ## Two runs up to the same time -/

namespace Plays

section

variable {cs left left' : List Command} {st₀ st₀' st st' : Stage π σ} {ds ds' : List Drain}
  {ended ended' : Bool} {time : Int}
  (h : Plays .standard assets cs st₀ ds left ended st)
  (h' : Plays .standard assets cs st₀' ds' left' ended' st')
  (hw : LoadAlike st₀.world st₀'.world) (hseen : st₀.registry.seen a = st₀'.registry.seen a)
  (hds : UpTo time ds) (hds' : UpTo time ds')

include h h' hw hseen hds hds'

theorem twins_of_front
    (ht : ∀ d ∈ ds, ∀ d' ∈ ds', a.status (.running d.time) = a.status (.running d'.time))
    (hfront : (past ds).map (·.command) <+: (past ds').map (·.command)) :
    past ds = past ds' ∧ Twins a st₀ st₀' st st' := by
  obtain ⟨timed, hpast, htimes, hcarried⟩ := h.carried
  obtain ⟨timed', hpast', htimes', hcarried'⟩ := h'.carried
  have hcs : (past ds').map (·.command) <+: cs := ⟨left', h'.split.symm⟩
  have htimed : ∀ p ∈ timed, ∀ p' ∈ timed',
      a.status (.running p.1) = a.status (.running p'.1) := by
    intro p hp p' hp'
    obtain ⟨d, hd, hdp⟩ := List.mem_map.1 (htimes p hp)
    obtain ⟨d', hd', hdp'⟩ := List.mem_map.1 (htimes' p' hp')
    rw [← hdp, ← hdp']
    exact ht d hd d' hd'
  have hboth := hcarried.twins hcarried' hw (.refl hseen)
    (by simpa [← hpast, ← hpast', Function.comp_def] using hfront) htimed
  rw [hpast, hpast'] at hboth
  -- The shorter run was drained as late as the longer one, so it cannot have stopped earlier.
  have heq : past ds = past ds' :=
    h.past_eq_of_prefix hds.1 hboth.1 hcs (h'.due_le hds'.2) h'.open_dropLast
  refine ⟨heq, hboth.2 ?_⟩
  rw [← hpast, ← hpast'] at heq
  simpa using congrArg List.length heq

/-- Two runs of one script up to the same time, on stages that look alike at the beginning. -/
theorem twins
    (ht : ∀ d ∈ ds, ∀ d' ∈ ds', a.status (.running d.time) = a.status (.running d'.time)) :
    past ds = past ds' ∧ Twins a st₀ st₀' st st' := by
  have hfront : (past ds).map (·.command) <+: cs := ⟨left, h.split.symm⟩
  have hfront' : (past ds').map (·.command) <+: cs := ⟨left', h'.split.symm⟩
  rcases List.prefix_or_prefix_of_prefix hfront hfront' with hle | hle
  · exact h.twins_of_front h' hw hseen hds hds' ht hle
  · obtain ⟨heq, htwins⟩ := h'.twins_of_front h hw.symm hseen.symm hds' hds
      (fun d' hd' d hd => (ht d hd d' hd').symm) hle
    exact ⟨heq.symm, htwins.symm⟩

end

end Plays

/-- Two sessions that play one script and have been drained up to the same time. -/
theorem Session.Follows.twins {content : String} {st₀ st₀' : Stage π σ} {ss ss' : Session π σ}
    {time : Int} (h : ss.Follows .standard content st₀) (h' : ss'.Follows .standard content st₀')
    (hw : LoadAlike st₀.world st₀'.world) (hseen : st₀.registry.seen a = st₀'.registry.seen a)
    (hds : UpTo time ss.drains) (hds' : UpTo time ss'.drains)
    (ht : ∀ d ∈ ss.drains, ∀ d' ∈ ss'.drains,
      a.status (.running d.time) = a.status (.running d'.time)) :
    past ss.drains = past ss'.drains ∧ ss.scheduler.ended = ss'.scheduler.ended ∧
      Twins a st₀ st₀' ss.stage ss'.stage ∧
      ∃ status, ss.status? = some status ∧ ss'.status? = some status := by
  obtain ⟨left, reader, -, -, hplays⟩ := h.plays
  obtain ⟨left', reader', -, -, hplays'⟩ := h'.plays
  obtain ⟨hpast, htwins⟩ := hplays.twins hplays' hw hseen hds hds' ht
  refine ⟨hpast, ?_, htwins, ?_⟩
  · rw [hplays.ended_eq, hplays'.ended_eq, hpast]
  · obtain ⟨last, status, hstatus, htells⟩ := h.status?_eq hds.ne_nil
    obtain ⟨last', status', hstatus', htells'⟩ := h'.status?_eq hds'.ne_nil
    rw [hpast] at htells
    obtain rfl : status = status' := htells.unique htells'
    exact ⟨status, hstatus, hstatus'⟩

end DemoReel
