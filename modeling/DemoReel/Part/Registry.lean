import DemoReel.Part.Basic
import DemoReel.Part.NameMap

/-!
# The part registry

Parts under their names, each with its settings and its status. Running parts are registered ones by
construction: the status is kept on the entry. Whatever leaves the registry is handed back.
-/

namespace DemoReel

open Number

/-- A part with what the registry keeps for it. -/
structure Enrolled (π : Type) where
  part : π
  settings : PartSettings
  status : PartStatus

/-- The registered parts. -/
structure Registry (π : Type) where
  parts : NameMap (Enrolled π)

namespace Registry

variable {π σ : Type}

/-- The registry after a request, the part that had to leave it and what there is to report. -/
structure Update (π : Type) where
  registry : Registry π
  released : Option π := none
  events : List Event := []

def empty : Registry π := ⟨.empty⟩

def get? (r : Registry π) (name : String) : Option (Enrolled π) := r.parts.get? name

def contains (r : Registry π) (name : String) : Bool := r.parts.contains name

def isRunning (r : Registry π) (name : String) : Bool :=
  (r.get? name).any (·.status.isRunning)

def names (r : Registry π) : List String := r.parts.names

def size (r : Registry π) : Nat := r.parts.size

/-- The entries of the running parts, in the order of their names. -/
def running (r : Registry π) : List (String × Enrolled π) :=
  r.parts.entries.filter (·.2.status.isRunning)

def runningNames (r : Registry π) : List String := r.running.map (·.1)

theorem mem_runningNames_iff {r : Registry π} {name : String} :
    name ∈ r.runningNames ↔ r.isRunning name = true := by
  rw [runningNames, running, List.mem_map, isRunning, Option.any_eq_true]
  constructor
  · rintro ⟨⟨n, e⟩, hmem, rfl⟩
    obtain ⟨hentry, hrunning⟩ := List.mem_filter.1 hmem
    exact ⟨e, NameMap.get?_eq_some_iff.2 hentry, hrunning⟩
  · rintro ⟨e, hget, hrunning⟩
    exact ⟨(name, e), List.mem_filter.2 ⟨NameMap.get?_eq_some_iff.1 hget, hrunning⟩, rfl⟩

/-- The time since a part was started, if it runs. -/
def elapsed? (r : Registry π) (name : String) (now : Int) : Option Int :=
  (r.get? name).bind fun e => e.status.started?.map fun since => wrapInt64 (now - since)

/-- Registers a part that does not run yet. A part that had the name has to leave. -/
def add (r : Registry π) (name : String) (part : π) (settings : PartSettings) :
    Except RegistryError (Update π) :=
  if name = "" then .error .emptyName
  else
    let registry := ⟨r.parts.insert name { part, settings, status := .idle }⟩
    match r.get? name with
    | none => .ok { registry }
    | some old =>
      .ok { registry, released := some old.part, events := [.registrationReplaced name] }

/-- Takes a part out, whether or not it runs. -/
def remove (r : Registry π) (name : String) : Update π :=
  match r.get? name with
  | none => { registry := r }
  | some old =>
    { registry := ⟨r.parts.erase name⟩
      released := some old.part
      events := if old.status.isRunning then [.removedWhileRunning name] else [] }

/-- Gives a part its entry anew. -/
def setEntry (r : Registry π) (name : String) (f : Enrolled π → Enrolled π) : Registry π :=
  ⟨r.parts.modify name f⟩

/-- Lets a part run from `time` on; one that runs starts over. -/
def start (r : Registry π) (name : String) (time : Int) : Except RegistryError (Update π) :=
  match r.get? name with
  | none => .error (.unknownPart name)
  | some e =>
    .ok { registry := r.setEntry name fun e => { e with status := .running time }
          events := if e.status.isRunning then [.partRestarted name time] else [] }

/-- Stops a running part. -/
def stop (r : Registry π) (name : String) : Except RegistryError (Update π) :=
  match r.get? name with
  | none => .error (.unknownPart name)
  | some e =>
    if e.status.isRunning then
      .ok { registry := r.setEntry name fun e => { e with status := .idle } }
    else .error (.notRunning name)

/-- Stops whatever runs. -/
def stopAll (r : Registry π) : Registry π := ⟨r.parts.map fun e => { e with status := .idle }⟩

/-- Moves a part to another name; settings and status go with it. A part that had the new name has
to leave. -/
def rename (r : Registry π) (name new : String) : Except RegistryError (Update π) :=
  if new = "" then .error .emptyName
  else match r.get? name with
    | none => .error (.unknownPart name)
    | some e =>
      if name = new then .ok { registry := r }
      else
        let registry := ⟨(r.parts.erase name).insert new e⟩
        match r.get? new with
        | none => .ok { registry }
        | some old =>
          .ok { registry, released := some old.part, events := [.renameReplaced name new] }

/-- Changes the settings of a part. -/
def configure (r : Registry π) (name : String) (f : PartSettings → PartSettings) :
    Except RegistryError (Update π) :=
  match r.get? name with
  | none => .error (.unknownPart name)
  | some _ => .ok { registry := r.setEntry name fun e => { e with settings := f e.settings } }

def setTarget (r : Registry π) (name : String) (target : Target) :
    Except RegistryError (Update π) :=
  r.configure name fun s => { s with target }

def setClear (r : Registry π) (name : String) (clear : Bool) :
    Except RegistryError (Update π) :=
  r.configure name fun s => { s with clear }

/-! ## Drawing -/

/-- Binds the target of a part, and clears it if the part asks for that. The framebuffer needs no
binding: it is bound between parts. -/
def prepare [Graphics σ] (settings : PartSettings) (w : World σ) : World σ :=
  let w := if settings.target = .framebuffer then w else w.after (.bind settings.target)
  if settings.clear then (w.after .clear).after .clearDepth else w

/-- Goes back to the framebuffer and drops what the part set up. -/
def restore [Graphics σ] (w : World σ) : World σ :=
  (w.after (.bind .framebuffer)).after .reset

/-- Draws one part if it runs. A failure is reported and is no reason to stop. -/
def renderEntry [Graphics σ] [Part π σ] (time : Int) (name : String) (e : Enrolled π)
    (w : World σ) : Enrolled π × World σ :=
  match e.status with
  | .idle => (e, w)
  | .running since =>
    let (result, part, w) :=
      Part.render e.part { time, elapsed := wrapInt64 (time - since) } (prepare e.settings w)
    let w := match result with
      | .ok () => w
      | .error why => w.note (.partFailed name why)
    ({ e with part }, restore w)

/-- Draws the running parts in the order of their names, and tells how many there were. A part that
fails counts like the others. -/
def render [Graphics σ] [Part π σ] (r : Registry π) (time : Int) (w : World σ) :
    Nat × Registry π × World σ :=
  let (parts, w) := r.parts.traverse (renderEntry time) w
  (r.running.length, ⟨parts⟩, w)

end Registry

end DemoReel
