import DemoReel.Part.Registry

/-!
# Registries that look alike

Two registries can be compared without regard to some of what they keep, such as the times at which
parts were started. Main statement: requests to registries that look alike have the same result, and
the registries look alike afterwards (`seen_start`, `seen_stop`, `seen_rename`, `seen_configure`).
-/

namespace DemoReel

variable {π ρ τ : Type}

/-- What is looked at of a registered part, besides its settings. Whether it runs can be told from
what is looked at. -/
structure Aspect (π ρ τ : Type) where
  part : π → ρ
  status : PartStatus → τ
  isRunning_eq : ∀ s s', status s = status s' → s.isRunning = s'.isRunning

namespace Aspect

def of (a : Aspect π ρ τ) (e : Enrolled π) : ρ × PartSettings × τ :=
  (a.part e.part, e.settings, a.status e.status)

/-- Everything but the times at which parts were started. -/
def timeless : Aspect π π Bool := ⟨id, PartStatus.isRunning, fun _ _ h => h⟩

/-- Everything but the parts themselves. -/
def partless : Aspect π Unit PartStatus := ⟨fun _ => (), id, fun _ _ h => congrArg _ h⟩

theorem of_eq_of_iff {a : Aspect π ρ τ} {e e' : Enrolled π} :
    a.of e = a.of e' ↔ a.part e.part = a.part e'.part ∧ e.settings = e'.settings ∧
      a.status e.status = a.status e'.status := by
  simp [of]

end Aspect

namespace Registry

/-- What is looked at of all parts. -/
def seen (a : Aspect π ρ τ) (r : Registry π) : NameMap (ρ × PartSettings × τ) := r.parts.map a.of

/-- What is looked at of a registry after a request, or the fault of the request. -/
def seenAfter (a : Aspect π ρ τ) (x : Except RegistryError (Update π)) :
    Except RegistryError (NameMap (ρ × PartSettings × τ)) := x.map fun u => u.registry.seen a

variable {a : Aspect π ρ τ} {r r' : Registry π}

/-- Registries that look alike have parts that look alike under the same names. -/
theorem get?_of_seen (h : r.seen a = r'.seen a) (name : String) :
    (r.get? name).map a.of = (r'.get? name).map a.of := by
  show (r.parts.get? name).map a.of = (r'.parts.get? name).map a.of
  rw [← NameMap.get?_map, ← NameMap.get?_map]
  exact congrArg (·.get? name) h

theorem seen_setEntry (h : r.seen a = r'.seen a) (name : String) {f f' : Enrolled π → Enrolled π}
    (hf : ∀ e e', a.of e = a.of e' → a.of (f e) = a.of (f' e')) :
    (r.setEntry name f).seen a = (r'.setEntry name f').seen a :=
  NameMap.map_modify_congr name h hf

theorem seen_start (h : r.seen a = r'.seen a) (name : String) {time time' : Int}
    (ht : a.status (.running time) = a.status (.running time')) :
    seenAfter a (r.start name time) = seenAfter a (r'.start name time') := by
  have hget := get?_of_seen h name
  unfold start
  cases he : r.get? name <;> cases he' : r'.get? name <;> simp only [he, he'] at hget
  · rfl
  · simp at hget
  · simp at hget
  · refine congrArg Except.ok (seen_setEntry h name fun e e' hee => ?_)
    obtain ⟨hpart, hsettings, -⟩ := Aspect.of_eq_of_iff.1 hee
    exact Aspect.of_eq_of_iff.2 ⟨hpart, hsettings, ht⟩

theorem seen_stop (h : r.seen a = r'.seen a) (name : String) :
    seenAfter a (r.stop name) = seenAfter a (r'.stop name) := by
  have hget := get?_of_seen h name
  unfold stop
  cases he : r.get? name <;> cases he' : r'.get? name <;> simp only [he, he'] at hget
  · rfl
  · simp at hget
  · simp at hget
  · next e e' =>
    have hrun : e.status.isRunning = e'.status.isRunning :=
      a.isRunning_eq _ _ (Aspect.of_eq_of_iff.1 (Option.some.inj hget)).2.2
    simp only [hrun]
    split
    · refine congrArg Except.ok (seen_setEntry h name fun e e' hee => ?_)
      obtain ⟨hpart, hsettings, -⟩ := Aspect.of_eq_of_iff.1 hee
      exact Aspect.of_eq_of_iff.2 ⟨hpart, hsettings, rfl⟩
    · rfl

theorem seen_rename (h : r.seen a = r'.seen a) (name new : String) :
    seenAfter a (r.rename name new) = seenAfter a (r'.rename name new) := by
  have hget := get?_of_seen h name
  unfold rename
  by_cases hnew : new = ""
  · simp only [hnew, if_true]
  simp only [hnew, if_false]
  cases he : r.get? name <;> cases he' : r'.get? name <;> simp only [he, he'] at hget
  · rfl
  · simp at hget
  · simp at hget
  · next e e' =>
    by_cases hsame : name = new
    · simp only [hsame, if_true]
      exact congrArg Except.ok h
    simp only [hsame, if_false]
    have hmoved : ((r.parts.erase name).insert new e).map a.of =
        ((r'.parts.erase name).insert new e').map a.of := by
      rw [NameMap.map_insert, NameMap.map_insert, NameMap.map_erase, NameMap.map_erase,
        Option.some.inj hget]
      exact congrArg (fun m => (m.erase name).insert new (a.of e')) h
    cases r.get? new <;> cases r'.get? new <;> exact congrArg Except.ok hmoved

theorem seen_configure (h : r.seen a = r'.seen a) (name : String)
    (f : PartSettings → PartSettings) :
    seenAfter a (r.configure name f) = seenAfter a (r'.configure name f) := by
  have hget := get?_of_seen h name
  unfold configure
  cases he : r.get? name <;> cases he' : r'.get? name <;> simp only [he, he'] at hget
  · rfl
  · simp at hget
  · simp at hget
  · refine congrArg Except.ok (seen_setEntry h name fun e e' hee => ?_)
    obtain ⟨hpart, hsettings, hstatus⟩ := Aspect.of_eq_of_iff.1 hee
    exact Aspect.of_eq_of_iff.2 ⟨hpart, congrArg f hsettings, hstatus⟩

/-! ## Stopped parts -/

/-- The names and the settings of the parts. -/
def profile (r : Registry π) : NameMap PartSettings := r.parts.map (·.settings)

@[simp] theorem runningNames_stopAll (r : Registry π) : r.stopAll.runningNames = [] := by
  have hrunning : r.stopAll.running = [] := by
    refine List.filter_eq_nil_iff.2 fun e he => ?_
    obtain ⟨e₀, -, rfl⟩ := List.mem_map.1 he
    exact Bool.false_ne_true
  rw [runningNames, hrunning, List.map_nil]

theorem stopAll_of_runningNames (h : r.runningNames = []) : r.stopAll = r := by
  have hrunning : r.running = [] := List.map_eq_nil_iff.1 h
  have hparts : r.parts.map (fun e => { e with status := .idle }) = r.parts := by
    ext1
    refine (List.map_congr_left fun e he => ?_).trans (List.map_id r.parts.entries)
    obtain ⟨name, part, settings, status⟩ := e
    have hidle : status.isRunning = false := by
      simpa using List.filter_eq_nil_iff.1 hrunning _ he
    cases status with
    | idle => rfl
    | running since => simp [PartStatus.isRunning] at hidle
  rw [stopAll, hparts]

/-- Stopped parts can be told apart by nothing but their names and settings, without a look at the
parts themselves. -/
theorem seen_stopAll_iff :
    r.stopAll.seen .partless = r'.stopAll.seen .partless ↔ r.profile = r'.profile := by
  have hseen : ∀ r : Registry π,
      r.stopAll.seen .partless = r.profile.map fun settings => ((), settings, .idle) := by
    intro r
    rw [seen, stopAll, profile, NameMap.map_map, NameMap.map_map]
    rfl
  have hprofile : ∀ r : Registry π,
      (r.stopAll.seen .partless).map (fun e => e.2.1) = r.profile := by
    intro r
    rw [seen, stopAll, profile, NameMap.map_map, NameMap.map_map]
    rfl
  constructor
  · intro h
    rw [← hprofile r, ← hprofile r', h]
  · intro h
    rw [hseen, hseen, h]

end Registry

end DemoReel
