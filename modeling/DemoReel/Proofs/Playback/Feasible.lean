import DemoReel.Proofs.Effect.Fetching
import DemoReel.Proofs.Part.Change
import DemoReel.Proofs.Playback.Standard

/-!
# What commands need and what they change

A command of the standard table succeeds exactly if it is feasible (`Command.Feasible`), and changes
nothing if it is not. Main statement: `CommandTable.standard_all_or_nothing`, which also says what a
command that succeeds makes of the parts and effects, and that all others stay as they are.
-/

namespace DemoReel

variable {π σ : Type}

/-! ## Requests to the registry -/

namespace Registry

variable {r : Registry π} {name : String}

theorem contains_iff : r.contains name = true ↔ ∃ e, r.get? name = some e :=
  Option.isSome_iff_exists

theorem isRunning_iff :
    r.isRunning name = true ↔ ∃ e, r.get? name = some e ∧ e.status.isRunning = true := by
  unfold isRunning
  cases r.get? name <;> simp

namespace Request

/-- What the registry grants. -/
def Granted (r : Registry π) : Request → Prop
  | .start name | .configure name _ => r.contains name = true
  | .stop name => r.isRunning name = true
  | .rename name new => r.contains name = true ∧ new ≠ ""

/-- What is under a name after a request that was granted. -/
def entry (time : Int) (r : Registry π) (n : String) : Request → Option (Enrolled π)
  | .start name =>
    (r.get? n).map fun e => if n = name then { e with status := .running time } else e
  | .stop name => (r.get? n).map fun e => if n = name then { e with status := .idle } else e
  | .rename name new => if n = new then r.get? name else if n = name then none else r.get? n
  | .configure name f =>
    (r.get? n).map fun e => if n = name then { e with settings := f e.settings } else e

theorem exists_on_iff {request : Request} (time : Int) :
    (∃ u, request.on time r = .ok u) ↔ request.Granted r := by
  cases request with
  | start name =>
    simp only [on, Registry.start, Granted, contains_iff]
    cases r.get? name <;> simp
  | stop name =>
    simp only [on, Registry.stop, Granted, isRunning_iff]
    cases r.get? name with
    | none => simp
    | some e => by_cases h : e.status.isRunning = true <;> simp [h]
  | rename name new =>
    simp only [on, Registry.rename, Granted, contains_iff]
    by_cases hnew : new = ""
    · simp [hnew]
    · cases r.get? name with
      | none => simp [hnew]
      | some e =>
        by_cases hsame : name = new
        · simp [hnew, hsame]
        · cases r.get? new <;> simp [hnew, hsame]
  | configure name f =>
    simp only [on, Registry.configure, Granted, contains_iff]
    cases r.get? name <;> simp

theorem get?_of_granted {request : Request} {time : Int} {u : Update π}
    (h : request.on time r = .ok u) (n : String) :
    u.registry.get? n = request.entry time r n := by
  have hsettle : u.registry = r.settle (request.on time r) := by rw [h]; rfl
  rw [hsettle]
  cases request with
  | start name => exact get?_after_start name n time
  | stop name => exact get?_after_stop name n
  | rename name new =>
    obtain ⟨hcontains, hnew⟩ := (exists_on_iff time).1 ⟨u, h⟩
    obtain ⟨e, he⟩ := contains_iff.1 hcontains
    rw [entry, he]
    exact get?_after_rename name n hnew he
  | configure name f => exact get?_settle_configure name n f

end Request

end Registry

/-! ## What a command needs -/

namespace Command

/-- The command can be carried out: it has the arguments that its keyword asks for, and the part
that it addresses is in a state for it. An effect needs all its files. -/
def Feasible [Graphics σ] (assets : Assets) (st : Stage π σ) (c : Command) : Prop :=
  match c.keyword, c.args with
  | .startPart, [name] => st.registry.contains name = true
  | .endPart, [name] => st.registry.isRunning name = true
  | .renamePart, [name, new] => st.registry.contains name = true ∧ new ≠ ""
  | .setTarget, [name, token] =>
    st.registry.contains name = true ∧ ∃ target, token = Target.text target
  | .setClear, [name, token] =>
    st.registry.contains name = true ∧ (token = "true" ∨ token = "false")
  | .finish, [] => True
  | .effect, args =>
    ∃ draft : EffectDraft, draft.SpelledBy args ∧
      ∃ made handles v, Fetches assets st.world draft.content.resources made (.ok handles) v
  | _, _ => False

/-- The parts that a command names. -/
def partNames (c : Command) : List String :=
  match c.keyword with
  | .startPart | .endPart | .setTarget | .setClear => c.args.take 1
  | .renamePart => c.args
  | .finish | .effect => []

/-- What is under a name after a command that was carried out. -/
def entry (time : Int) (r : Registry π) (c : Command) (n : String) : Option (Enrolled π) :=
  match c.keyword, c.args with
  | .startPart, [name] =>
    (r.get? n).map fun e => if n = name then { e with status := .running time } else e
  | .endPart, [name] => (r.get? n).map fun e => if n = name then { e with status := .idle } else e
  | .renamePart, [name, new] => if n = new then r.get? name else if n = name then none else r.get? n
  | .setTarget, [name, token] =>
    (r.get? n).map fun e =>
      if n = name then
        { e with settings.target := (Target.ofText? token).getD e.settings.target }
      else e
  | .setClear, [name, token] =>
    (r.get? n).map fun e => if n = name then { e with settings.clear := token = "true" } else e
  | _, _ => r.get? n

theorem entry_of_notMem {time : Int} {r : Registry π} {c : Command} {n : String}
    (h : n ∉ c.partNames) : c.entry time r n = r.get? n := by
  obtain ⟨due, keyword, args, line⟩ := c
  unfold entry
  dsimp only at h ⊢
  split
  all_goals simp_all [partNames]

/-- An effect command adds the effect that its arguments spell, and no other command adds one. -/
def TimelineAfter [Graphics σ] (assets : Assets) (st : Stage π σ) (c : Command) (t : Timeline) :
    Prop :=
  if c.keyword = .effect then
    ∃ draft : EffectDraft, draft.SpelledBy c.args ∧
      ∃ made handles v, Fetches assets st.world draft.content.resources made (.ok handles) v ∧
        ∃ content, draft.content.Filled handles content ∧
          t = (st.timeline.add ⟨draft.window, content⟩).2
  else t = st.timeline

end Command

/-! ## Deeds -/

namespace Deed

variable [Graphics σ] {assets : Assets} {time : Int} {st st' : Stage π σ} {verdict : Verdict}

def Feasible (assets : Assets) (st : Stage π σ) : Deed → Prop
  | .refuse _ => False
  | .finish => True
  | .ask request => request.Granted st.registry
  | .load c => ∃ e v, Effect.ofArgs assets c.args st.world = (.ok e, v)

/-- A deed succeeds if it is feasible, and leaves everything but the world alone if it is not. -/
theorem carryOut_cases (d : Deed) (assets : Assets) (time : Int) (st : Stage π σ) :
    (d.Feasible assets st ∧ ∃ verdict st', d.carryOut assets time st = (.ok verdict, st')) ∨
      ¬ d.Feasible assets st ∧ ∃ why world,
        d.carryOut assets time st = (.error why, { st with world }) := by
  cases d with
  | refuse why => exact .inr ⟨id, why, st.world, rfl⟩
  | finish => exact .inl ⟨trivial, .endOfReel, st, rfl⟩
  | ask request =>
    simp only [Feasible, ← Registry.Request.exists_on_iff time, carryOut, Handler.updating]
    cases request.on time st.registry with
    | error why => exact .inr ⟨by simp, .registry why, st.world, rfl⟩
    | ok u => exact .inl ⟨⟨u, rfl⟩, .goOn, _, rfl⟩
  | load c =>
    simp only [Feasible, carryOut, Handler.effect]
    obtain ⟨answer, v⟩ := Effect.ofArgs assets c.args st.world
    cases answer with
    | error why => exact .inr ⟨by simp, .effect why, v, rfl⟩
    | ok e => exact .inl ⟨⟨e, v, rfl⟩, .goOn, _, rfl⟩

/-- A request that is carried out changes the registry and nothing else. -/
theorem of_carryOut_ask {request : Registry.Request}
    (h : (ask request).carryOut assets time st = (.ok verdict, st')) :
    verdict = .goOn ∧ (∀ n, st'.registry.get? n = request.entry time st.registry n) ∧
      st'.timeline = st.timeline := by
  simp only [carryOut, Handler.updating] at h
  cases hu : request.on time st.registry with
  | error why =>
    rw [hu] at h
    cases h
  | ok u =>
    rw [hu] at h
    cases h
    exact ⟨rfl, Registry.Request.get?_of_granted hu, rfl⟩

/-- An effect that is loaded goes to the end of the timeline. -/
theorem of_carryOut_load {c : Command}
    (h : (load c).carryOut assets time st = (.ok verdict, st')) :
    verdict = .goOn ∧ st'.registry = st.registry ∧
      ∃ e v, Effect.ofArgs assets c.args st.world = (.ok e, v) ∧
        st'.timeline = (st.timeline.add e).2 := by
  simp only [carryOut, Handler.effect] at h
  cases he : Effect.ofArgs assets c.args st.world with
  | mk answer v =>
    rw [he] at h
    cases answer with
    | error why => cases h
    | ok e =>
      cases h
      exact ⟨rfl, rfl, e, v, rfl, rfl⟩

end Deed

/-! ## From commands to deeds -/

theorem Script.boolean?_eq_some_iff {token : String} {b : Bool} :
    boolean? token = some b ↔ token = "true" ∧ b = true ∨ token = "false" ∧ b = false := by
  unfold boolean?
  split
  · simp [eq_comm]
  · simp [eq_comm]
  · next htrue hfalse =>
    refine ⟨fun h => (nomatch h), ?_⟩
    rintro (⟨heq, -⟩ | ⟨heq, -⟩)
    · exact absurd heq htrue
    · exact absurd heq hfalse

namespace Command

variable [Graphics σ] {assets : Assets} {time : Int} {st : Stage π σ}

/-- How the deed of a command belongs to what the command needs and to what it makes of the
parts. -/
inductive StandsFor (assets : Assets) (st : Stage π σ) (c : Command) : Deed → Prop where
  | load (isEffect : c.keyword = .effect) : StandsFor assets st c (.load c)
  | finish (isFinish : c.keyword = .finish) (feasible : c.Feasible assets st) :
      StandsFor assets st c .finish
  | ask {request : Registry.Request} (notEffect : c.keyword ≠ .effect)
      (notFinish : c.keyword ≠ .finish)
      (granted : request.Granted st.registry ↔ c.Feasible assets st)
      (entry : ∀ (time : Int) (r : Registry π) n, request.entry time r n = c.entry time r n) :
      StandsFor assets st c (.ask request)
  | refuse {why : CommandError} (infeasible : ¬ c.Feasible assets st) :
      StandsFor assets st c (.refuse why)

theorem standsFor_deed (c : Command) (assets : Assets) (st : Stage π σ) :
    StandsFor assets st c c.deed := by
  obtain ⟨due, keyword, args, line⟩ := c
  cases keyword with
  | startPart | endPart =>
    rcases args with - | ⟨name, - | ⟨new, rest⟩⟩
    · exact .refuse id
    · exact .ask nofun nofun Iff.rfl fun _ _ _ => rfl
    · exact .refuse id
  | renamePart =>
    rcases args with - | ⟨name, - | ⟨new, - | ⟨more, rest⟩⟩⟩
    · exact .refuse id
    · exact .refuse id
    · exact .ask nofun nofun Iff.rfl fun _ _ _ => rfl
    · exact .refuse id
  | setTarget =>
    rcases args with - | ⟨name, - | ⟨token, - | ⟨more, rest⟩⟩⟩
    · exact .refuse id
    · exact .refuse id
    · cases htarget : Target.ofText? token with
      | none =>
        simp only [deed, htarget]
        refine .refuse fun ⟨_, target, htoken⟩ => ?_
        cases htarget.symm.trans (Target.ofText?_eq_some_iff.2 htoken)
      | some target =>
        simp only [deed, htarget]
        have htoken : ∃ target, token = Target.text target :=
          ⟨target, Target.ofText?_eq_some_iff.1 htarget⟩
        refine .ask nofun nofun (and_iff_left htoken).symm fun _ _ _ => ?_
        simp only [Command.entry, htarget]
        rfl
    · exact .refuse id
  | setClear =>
    rcases args with - | ⟨name, - | ⟨token, - | ⟨more, rest⟩⟩⟩
    · exact .refuse id
    · exact .refuse id
    · cases hclear : Script.boolean? token with
      | none =>
        simp only [deed, hclear]
        refine .refuse fun ⟨_, htoken⟩ => ?_
        rcases htoken with rfl | rfl <;> cases hclear
      | some clear =>
        simp only [deed, hclear]
        rcases Script.boolean?_eq_some_iff.1 hclear with ⟨rfl, rfl⟩ | ⟨rfl, rfl⟩
        · exact .ask nofun nofun (and_iff_left (.inl rfl)).symm fun _ _ _ => rfl
        · exact .ask nofun nofun (and_iff_left (.inr rfl)).symm fun _ _ _ => rfl
    · exact .refuse id
  | finish =>
    rcases args with - | ⟨name, rest⟩
    · exact .finish rfl trivial
    · exact .refuse id
  | effect => exact .load rfl

theorem feasible_deed_iff {c : Command} : c.deed.Feasible assets st ↔ c.Feasible assets st := by
  have h := c.standsFor_deed assets st
  generalize c.deed = deed at h ⊢
  cases h with
  | load isEffect =>
    simp only [Feasible, isEffect]
    exact Effect.exists_ofArgs_eq_ok_iff
  | finish _ feasible => exact iff_of_true trivial feasible
  | ask _ _ granted _ => exact granted
  | refuse infeasible => exact iff_of_false id infeasible

/-- What a command that is carried out makes of the stage. -/
theorem of_carryOut {c : Command} {verdict : Verdict} {st' : Stage π σ}
    (h : c.deed.carryOut assets time st = (.ok verdict, st')) :
    (verdict = .endOfReel ↔ c.keyword = .finish) ∧
      (∀ n, st'.registry.get? n = c.entry time st.registry n) ∧
      c.TimelineAfter assets st st'.timeline := by
  have hstands := c.standsFor_deed assets st
  generalize c.deed = deed at h hstands
  cases hstands with
  | load isEffect =>
    obtain ⟨rfl, hregistry, e, v, he, htimeline⟩ := Deed.of_carryOut_load h
    obtain ⟨draft, hdraft, made, handles, hfetch, content, hfilled, rfl⟩ :=
      Effect.filled_of_ofArgs he
    rw [TimelineAfter, if_pos isEffect]
    refine ⟨by simp [isEffect], fun n => ?_, draft, hdraft, made, handles, v, hfetch, content,
      hfilled, htimeline⟩
    simp [entry, isEffect, hregistry]
  | finish isFinish _ =>
    cases h
    rw [TimelineAfter, isFinish, if_neg nofun]
    exact ⟨by simp, fun n => by simp [entry, isFinish], rfl⟩
  | ask notEffect notFinish _ hentry =>
    obtain ⟨rfl, hregistry, htimeline⟩ := Deed.of_carryOut_ask h
    rw [TimelineAfter, if_neg notEffect]
    refine ⟨by simp [notFinish], fun n => ?_, htimeline⟩
    rw [hregistry, hentry]
  | refuse => cases h

end Command

/-- A command of the standard table succeeds exactly if it is feasible. If it is refused, the parts
and effects are what they were. If it succeeds, it ends the reel exactly if that is its keyword, the
parts are as `Command.entry` says, which leaves alone those that it does not name, and the timeline
has the effect at its end that an effect command spells. -/
theorem CommandTable.standard_all_or_nothing [Graphics σ] (c : Command) (assets : Assets)
    (time : Int) (st : Stage π σ) :
    ((∃ verdict st', standard.dispatch c assets time st = (.ok verdict, st')) ↔
        c.Feasible assets st) ∧
      (∀ why st', standard.dispatch c assets time st = (.error why, st') →
        st'.registry = st.registry ∧ st'.timeline = st.timeline) ∧
      ∀ verdict st', standard.dispatch c assets time st = (.ok verdict, st') →
        (verdict = .endOfReel ↔ c.keyword = .finish) ∧
        (∀ n, st'.registry.get? n = c.entry time st.registry n) ∧
        (∀ n, n ∉ c.partNames → st'.registry.get? n = st.registry.get? n) ∧
        c.TimelineAfter assets st st'.timeline := by
  rw [dispatch_eq_carryOut]
  rcases c.deed.carryOut_cases assets time st with
    ⟨hfeasible, verdict, st', h⟩ | ⟨hinfeasible, why, world, h⟩
  · rw [Command.feasible_deed_iff] at hfeasible
    obtain ⟨hverdict, hentry, htimeline⟩ := Command.of_carryOut h
    rw [h]
    refine ⟨⟨fun _ => hfeasible, fun _ => ⟨verdict, st', rfl⟩⟩, fun _ _ herror => (nomatch herror),
      fun _ _ hok => ?_⟩
    cases hok
    exact ⟨hverdict, hentry, fun n hn => (hentry n).trans (Command.entry_of_notMem hn), htimeline⟩
  · rw [Command.feasible_deed_iff] at hinfeasible
    rw [h]
    refine ⟨⟨fun ⟨_, _, hok⟩ => (nomatch hok), fun hfeasible => absurd hfeasible hinfeasible⟩,
      fun _ _ herror => ?_, fun _ _ hok => (nomatch hok)⟩
    cases herror
    exact ⟨rfl, rfl⟩

end DemoReel
