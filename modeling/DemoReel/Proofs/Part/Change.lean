import DemoReel.Part.Registry

/-!
# Changes to a registry

Everything that can be asked of a registry, as data, so that one can speak of what was asked of it
over time. A refused change leaves the registry as it is. Main statements: what is under a name
after a change (`get?_after_rename` and its siblings), and that the parts have no say in it: the
same changes with other parts lead to the same registry with other parts (`run_mapParts`).
-/

namespace DemoReel

variable {π ρ : Type}

namespace Registry

/-- Something that is asked of a registry. -/
inductive Change (π : Type) where
  | add (name : String) (part : π) (settings : PartSettings)
  | remove (name : String)
  | rename (name new : String)
  | start (name : String) (time : Int)
  | stop (name : String)
  | stopAll
  | setTarget (name : String) (target : Target)
  | setClear (name : String) (clear : Bool)

namespace Change

def on (r : Registry π) : Change π → Except RegistryError (Update π)
  | .add name part settings => r.add name part settings
  | .remove name => .ok (r.remove name)
  | .rename name new => r.rename name new
  | .start name time => r.start name time
  | .stop name => r.stop name
  | .stopAll => .ok { registry := r.stopAll }
  | .setTarget name target => r.setTarget name target
  | .setClear name clear => r.setClear name clear

/-- The registry does not refuse the change. -/
def isAccepted (r : Registry π) (c : Change π) : Bool := (c.on r).isOk

/-- The part that the change brings along. -/
def part? : Change π → Option π
  | .add _ part _ => some part
  | _ => none

end Change

/-- The registry after a request that was granted or refused. -/
def settle (r : Registry π) : Except RegistryError (Update π) → Registry π
  | .ok u => u.registry
  | .error _ => r

/-- The registry after a change. -/
def after (r : Registry π) (c : Change π) : Registry π := r.settle (c.on r)

def run (r : Registry π) (cs : List (Change π)) : Registry π := cs.foldl after r

/-- Changes in the order in which they were asked for, each with whether it was accepted. -/
abbrev History (π : Type) := List (Change π × Bool)

/-- What the registry makes of several changes. -/
def history (r : Registry π) : List (Change π) → History π
  | [] => []
  | c :: cs => (c, c.isAccepted r) :: (r.after c).history cs

/-! ## Which changes are refused -/

section

variable {r : Registry π} {name new : String}

theorem after_of_refused {c : Change π} (h : c.isAccepted r = false) : r.after c = r := by
  unfold after
  unfold Change.isAccepted at h
  cases hc : c.on r with
  | ok u => rw [hc] at h; cases h
  | error why => rfl

theorem isAccepted_add_iff {part : π} {settings : PartSettings} :
    (Change.add name part settings).isAccepted r = true ↔ name ≠ "" := by
  unfold Change.isAccepted Change.on add
  by_cases h : name = ""
  · simp [h, Except.isOk, Except.toBool]
  · simp only [if_neg h]
    cases r.get? name <;> simp [h, Except.isOk, Except.toBool]

theorem isAccepted_rename_iff :
    (Change.rename name new).isAccepted r = true ↔ new ≠ "" ∧ ∃ e, r.get? name = some e := by
  unfold Change.isAccepted Change.on rename
  by_cases hnew : new = ""
  · simp [hnew, Except.isOk, Except.toBool]
  · simp only [if_neg hnew]
    cases r.get? name with
    | none => simp [Except.isOk, Except.toBool]
    | some e =>
      refine iff_of_true ?_ ⟨hnew, e, rfl⟩
      dsimp only
      by_cases hsame : name = new
      · rw [if_pos hsame]
        rfl
      · rw [if_neg hsame]
        cases r.get? new <;> rfl

end

/-! ## What is under a name -/

section

variable {r : Registry π} (name n : String)

/-- What is done to the entry of a name leaves other entries alone. -/
theorem get?_setEntry (f : Enrolled π → Enrolled π) :
    (r.setEntry name f).get? n = (r.get? n).map fun e => if n = name then f e else e :=
  NameMap.get?_modify r.parts name f n

/-- Where there is no entry, nothing can be done to it. -/
theorem get?_eq_map (h : r.get? name = none) (f : Enrolled π → Enrolled π) :
    r.get? n = (r.get? n).map fun e => if n = name then f e else e := by
  by_cases hn : n = name
  · rw [hn, h]
    rfl
  · simp only [if_neg hn, Option.map_id']

theorem get?_after_add (part : π) (settings : PartSettings) (h : name ≠ "") :
    (r.after (.add name part settings)).get? n =
      if n = name then some ⟨part, settings, .idle⟩ else r.get? n := by
  have hafter : r.after (.add name part settings) =
      ⟨r.parts.insert name ⟨part, settings, .idle⟩⟩ := by
    simp only [after, Change.on, add, if_neg h]
    cases r.get? name <;> rfl
  rw [hafter]
  exact NameMap.get?_insert r.parts name _ n

theorem get?_after_remove :
    (r.after (.remove name)).get? n = if n = name then none else r.get? n := by
  cases h : r.get? name with
  | none =>
    have hafter : r.after (.remove name) = r := by simp only [after, settle, Change.on, remove, h]
    rw [hafter]
    split
    · next hn => rw [hn, h]
    · rfl
  | some e =>
    have hafter : r.after (.remove name) = ⟨r.parts.erase name⟩ := by
      simp only [after, settle, Change.on, remove, h]
    rw [hafter]
    exact NameMap.get?_erase r.parts name n

theorem get?_after_rename {new : String} {e : Enrolled π} (hnew : new ≠ "")
    (h : r.get? name = some e) :
    (r.after (.rename name new)).get? n =
      if n = new then some e else if n = name then none else r.get? n := by
  by_cases hsame : name = new
  · subst hsame
    have hafter : r.after (.rename name name) = r := by
      simp only [after, settle, Change.on, rename, if_neg hnew, h, if_true]
    rw [hafter]
    split
    · next hn => rw [hn, h]
    · rfl
  · have hafter : r.after (.rename name new) = ⟨(r.parts.erase name).insert new e⟩ := by
      simp only [after, Change.on, rename, if_neg hnew, h, if_neg hsame]
      cases r.get? new <;> rfl
    rw [hafter]
    show ((r.parts.erase name).insert new e).get? n = _
    rw [NameMap.get?_insert, NameMap.get?_erase]
    rfl

theorem get?_after_start (time : Int) :
    (r.after (.start name time)).get? n =
      (r.get? n).map fun e => if n = name then { e with status := .running time } else e := by
  simp only [after, Change.on, start]
  cases h : r.get? name with
  | none => exact get?_eq_map name n h _
  | some e => exact get?_setEntry name n _

/-- A part that does not run is not stopped, and looks as if it were. -/
theorem get?_after_stop :
    (r.after (.stop name)).get? n =
      (r.get? n).map fun e => if n = name then { e with status := .idle } else e := by
  simp only [after, Change.on, stop]
  cases h : r.get? name with
  | none => exact get?_eq_map name n h _
  | some e =>
    obtain ⟨part, settings, status⟩ := e
    cases status with
    | idle =>
      show r.get? n = _
      by_cases hn : n = name
      · rw [hn, h, Option.map_some, if_pos rfl]
      · simp only [if_neg hn, Option.map_id']
    | running since => exact get?_setEntry name n _

theorem get?_after_stopAll :
    (r.after .stopAll).get? n = (r.get? n).map fun e => { e with status := .idle } :=
  NameMap.get?_map r.parts _ n

theorem get?_settle_configure (f : PartSettings → PartSettings) :
    (r.settle (r.configure name f)).get? n =
      (r.get? n).map fun e => if n = name then { e with settings := f e.settings } else e := by
  unfold configure
  cases h : r.get? name with
  | none => exact get?_eq_map name n h _
  | some e => exact get?_setEntry name n _

end

end Registry

/-! ## Other parts -/

/-- The entry of another part. -/
def Enrolled.map (f : π → ρ) (e : Enrolled π) : Enrolled ρ := ⟨f e.part, e.settings, e.status⟩

namespace Registry

/-- The change with another part. -/
def Change.map (f : π → ρ) : Change π → Change ρ
  | .add name part settings => .add name (f part) settings
  | .remove name => .remove name
  | .rename name new => .rename name new
  | .start name time => .start name time
  | .stop name => .stop name
  | .stopAll => .stopAll
  | .setTarget name target => .setTarget name target
  | .setClear name clear => .setClear name clear

/-- The registry with other parts. -/
def mapParts (f : π → ρ) (r : Registry π) : Registry ρ := ⟨r.parts.map (Enrolled.map f)⟩

def Update.map (f : π → ρ) (u : Update π) : Update ρ :=
  ⟨u.registry.mapParts f, u.released.map f, u.events⟩

section

variable (f : π → ρ) (r : Registry π) (name : String)

theorem get?_mapParts : (r.mapParts f).get? name = (r.get? name).map (Enrolled.map f) :=
  NameMap.get?_map r.parts _ name

/-- What is done to an entry without a look at the part is done to the entry of any other part. -/
theorem setStatus_mapParts (status : PartStatus) :
    ((r.mapParts f).setEntry name fun e => { e with status }) =
      (r.setEntry name fun e => { e with status }).mapParts f := by
  refine congrArg Registry.mk (Eq.symm ?_)
  exact NameMap.map_modify r.parts name fun _ => rfl

theorem setSettings_mapParts (g : PartSettings → PartSettings) :
    ((r.mapParts f).setEntry name fun e => { e with settings := g e.settings }) =
      (r.setEntry name fun e => { e with settings := g e.settings }).mapParts f := by
  refine congrArg Registry.mk (Eq.symm ?_)
  exact NameMap.map_modify r.parts name fun _ => rfl

theorem stopAll_mapParts : (r.mapParts f).stopAll = r.stopAll.mapParts f := by
  simp only [stopAll, mapParts, NameMap.map_map]
  rfl

theorem configure_mapParts (g : PartSettings → PartSettings) :
    (r.mapParts f).configure name g = (r.configure name g).map (Update.map f) := by
  simp only [configure, get?_mapParts]
  cases r.get? name with
  | none => rfl
  | some e =>
    simp only [Option.map_some, Except.map, Update.map, setSettings_mapParts]
    rfl

/-- A change does to other parts what it does to these. -/
theorem on_mapParts (c : Change π) :
    (c.map f).on (r.mapParts f) = (c.on r).map (Update.map f) := by
  cases c with
  | add name part settings =>
    simp only [Change.map, Change.on, add]
    split
    · rfl
    · have hinsert : (r.mapParts f).parts.insert name ⟨f part, settings, .idle⟩ =
          (r.parts.insert name ⟨part, settings, .idle⟩).map (Enrolled.map f) :=
        (NameMap.map_insert r.parts (Enrolled.map f) name ⟨part, settings, .idle⟩).symm
      rw [get?_mapParts, hinsert]
      cases r.get? name <;> rfl
  | remove name =>
    simp only [Change.map, Change.on, remove, get?_mapParts]
    have herase : (r.mapParts f).parts.erase name = (r.parts.erase name).map (Enrolled.map f) :=
      (NameMap.map_erase r.parts (Enrolled.map f) name).symm
    cases r.get? name with
    | none => rfl
    | some e =>
      simp only [Option.map_some, herase]
      rfl
  | rename name new =>
    simp only [Change.map, Change.on, rename, get?_mapParts]
    split
    · rfl
    · cases r.get? name with
      | none => rfl
      | some e =>
        have hmoved : ((r.mapParts f).parts.erase name).insert new (e.map f) =
            ((r.parts.erase name).insert new e).map (Enrolled.map f) := by
          rw [NameMap.map_insert, NameMap.map_erase]
          rfl
        simp only [Option.map_some, hmoved]
        split
        · rfl
        · cases r.get? new <;> rfl
  | start name time =>
    simp only [Change.map, Change.on, start, get?_mapParts]
    cases r.get? name with
    | none => rfl
    | some e =>
      simp only [Option.map_some, setStatus_mapParts]
      rfl
  | stop name =>
    simp only [Change.map, Change.on, stop, get?_mapParts]
    cases r.get? name with
    | none => rfl
    | some e =>
      simp only [Option.map_some, setStatus_mapParts]
      show (if e.status.isRunning then _ else _) = _
      split <;> rfl
  | stopAll =>
    show Except.ok _ = Except.ok _
    rw [stopAll_mapParts]
    rfl
  | setTarget name target => exact configure_mapParts f r name fun s => { s with target }
  | setClear name clear => exact configure_mapParts f r name fun s => { s with clear }

theorem after_mapParts (c : Change π) :
    (r.mapParts f).after (c.map f) = (r.after c).mapParts f := by
  rw [after, on_mapParts, after]
  cases c.on r <;> rfl

theorem run_mapParts (cs : List (Change π)) :
    (r.mapParts f).run (cs.map (Change.map f)) = (r.run cs).mapParts f := by
  induction cs generalizing r with
  | nil => rfl
  | cons c cs ih =>
    show ((r.mapParts f).after (c.map f)).run (cs.map (Change.map f)) =
      ((r.after c).run cs).mapParts f
    rw [after_mapParts, ih]

end

end Registry

end DemoReel
