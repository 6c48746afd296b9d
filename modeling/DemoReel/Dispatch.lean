import DemoReel.Effect.Loading
import DemoReel.Effect.Timeline
import DemoReel.Part.Registry

/-!
# Dispatch

What the commands of a script do. A table gives every keyword a handler; a list of handlers that
leaves one out makes no table. A command that fails changes neither parts nor effects.
-/

namespace DemoReel

/-- What commands act on. -/
structure Stage (π σ : Type) where
  registry : Registry π
  timeline : Timeline
  world : World σ

/-- What a command that succeeds says about the script. -/
inductive Verdict where
  | goOn
  | endOfReel
  deriving DecidableEq, Repr

/-- Carries out a command at a time. -/
abbrev Handler (π σ : Type) :=
  Command → Assets → Int → Stage π σ → Except CommandError Verdict × Stage π σ

/-- A handler for each keyword. -/
structure CommandTable (π σ : Type) where
  handler : Keyword → Handler π σ

namespace Handler

variable {π σ : Type}

/-- Refuses a command for a reason. -/
def refuse (why : CommandError) : Handler π σ := fun _ _ _ s => (.error why, s)

/-- Does nothing but give a verdict. -/
def always (v : Verdict) : Handler π σ := fun _ _ _ s => (.ok v, s)

/-- Carries out a request to the registry. -/
def updating (request : Except RegistryError (Registry.Update π)) (s : Stage π σ) :
    Except CommandError Verdict × Stage π σ :=
  match request with
  | .error e => (.error (.registry e), s)
  | .ok u => (.ok .goOn, { s with registry := u.registry, world := s.world.noteAll u.events })

def startPart : Handler π σ := fun c _ time s =>
  match c.args with
  | [name] => updating (s.registry.start name time) s
  | _ => (.error (.arity c.keyword), s)

def endPart : Handler π σ := fun c _ _ s =>
  match c.args with
  | [name] => updating (s.registry.stop name) s
  | _ => (.error (.arity c.keyword), s)

def renamePart : Handler π σ := fun c _ _ s =>
  match c.args with
  | [name, new] => updating (s.registry.rename name new) s
  | _ => (.error (.arity c.keyword), s)

def setTarget : Handler π σ := fun c _ _ s =>
  match c.args with
  | [name, token] =>
    match Target.ofText? token with
    | some target => updating (s.registry.setTarget name target) s
    | none => (.error (.invalidTarget token), s)
  | _ => (.error (.arity c.keyword), s)

def setClear : Handler π σ := fun c _ _ s =>
  match c.args with
  | [name, token] =>
    match Script.boolean? token with
    | some clear => updating (s.registry.setClear name clear) s
    | none => (.error (.invalidBoolean token), s)
  | _ => (.error (.arity c.keyword), s)

def finish : Handler π σ := fun c _ _ s =>
  match c.args with
  | [] => (.ok .endOfReel, s)
  | _ => (.error (.arity c.keyword), s)

/-- What there is to report about a new effect. -/
def addedEvent (id : Nat) (e : ImageEffect) : Event :=
  .effectAdded e.content.kind.text id e.window.start e.window.stop

def effect [Graphics σ] : Handler π σ := fun c assets _ s =>
  match Effect.ofArgs assets c.args s.world with
  | (.error why, world) => (.error (.effect why), { s with world })
  | (.ok e, world) =>
    let (id, timeline) := s.timeline.add e
    (.ok .goOn, { s with timeline, world := world.note (addedEvent id e) })

end Handler

namespace CommandTable

variable {π σ : Type}

/-- What the keywords stand for. -/
def standard [Graphics σ] : CommandTable π σ where
  handler
    | .startPart => Handler.startPart
    | .endPart => Handler.endPart
    | .renamePart => Handler.renamePart
    | .setTarget => Handler.setTarget
    | .setClear => Handler.setClear
    | .finish => Handler.finish
    | .effect => Handler.effect

/-- The handler for a keyword in a list; of two for one keyword, the later. -/
def lookup? (handlers : List (Keyword × Handler π σ)) (k : Keyword) : Option (Handler π σ) :=
  handlers.reverse.lookup k

/-- The table of some handlers. Every keyword needs one; the first that has none is reported. -/
def ofHandlers (handlers : List (Keyword × Handler π σ)) :
    Except TableError (CommandTable π σ) :=
  match Keyword.all.find? fun k => (lookup? handlers k).isNone with
  | some k => .error (.missingHandler k)
  | none => .ok ⟨fun k => (lookup? handlers k).getD (Handler.refuse (.noHandler k))⟩

/-- The table with another handler for a keyword. -/
def setHandler (t : CommandTable π σ) (k : Keyword) (h : Handler π σ) : CommandTable π σ :=
  ⟨fun k' => if k' = k then h else t.handler k'⟩

/-- Carries out a command. -/
def dispatch (t : CommandTable π σ) (c : Command) (assets : Assets) (time : Int)
    (s : Stage π σ) : Except CommandError Verdict × Stage π σ :=
  t.handler c.keyword c assets time s

@[simp] theorem handler_setHandler_self (t : CommandTable π σ) (k : Keyword) (h : Handler π σ) :
    (t.setHandler k h).handler k = h := by simp [setHandler]

theorem handler_setHandler_of_ne (t : CommandTable π σ) {k k' : Keyword} (h : Handler π σ)
    (hk : k' ≠ k) : (t.setHandler k h).handler k' = t.handler k' := by simp [setHandler, hk]

end CommandTable

end DemoReel
