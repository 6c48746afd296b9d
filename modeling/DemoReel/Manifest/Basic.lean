import DemoReel.Part.Registry
import DemoReel.Part.Scene

/-!
# Manifests

What a reel declares beside its script: the size and the rate of its frames, and its parts.
-/

namespace DemoReel

/-- What holds for a whole reel. -/
structure Settings where
  width : Nat := 640
  height : Nat := 360
  fps : Float32 := 30
  /-- Whether effects that are over go by themselves. -/
  pruneEffects : Bool := false
  deriving DecidableEq, Repr

/-- The kinds of parts that can be declared. -/
inductive PartKind where
  | solid
  | pulse
  deriving DecidableEq, Repr

namespace PartKind

def text : PartKind → String
  | .solid => "solid"
  | .pulse => "pulse"

/-- Reads a kind; the case of ASCII letters does not matter. -/
def ofText? (s : String) : Option PartKind :=
  match String.ofList (s.toList.map Char.toLower) with
  | "solid" => some .solid
  | "pulse" => some .pulse
  | _ => none

theorem ofText?_text (k : PartKind) : ofText? k.text = some k := by cases k <;> rfl

end PartKind

/-- A part as it is declared. -/
structure PartSpec where
  name : String
  kind : PartKind := .solid
  color : Color := .white
  target : Target := .framebuffer
  clear : Bool := false
  period : Int := Scene.defaultPeriod
  deriving DecidableEq, Repr

namespace PartSpec

def settings (p : PartSpec) : PartSettings := { target := p.target, clear := p.clear }

/-- The part itself. -/
def scene (p : PartSpec) : Scene :=
  match p.kind with
  | .solid => .solid p.color
  | .pulse => .pulse p.color p.period

end PartSpec

/-- What a reel declares. -/
structure Manifest where
  settings : Settings := {}
  parts : List PartSpec := []
  deriving DecidableEq, Repr

/-- A declared part that the registry refuses. -/
structure EnrollmentError where
  name : String
  why : RegistryError
  deriving DecidableEq, Repr

/-- The message, and below it that of the cause. -/
def EnrollmentError.chain (e : EnrollmentError) : List String :=
  ["failed to register part `" ++ e.name ++ "`", e.why.message]

namespace Manifest

variable {π : Type}

/-- Registers parts in order, each made by `build`; the first that is refused ends it. The events go
behind those in `events`. -/
def enrollAll (build : Scene → π) (r : Registry π) (events : List Event) :
    List PartSpec → Except EnrollmentError Unit × Registry π × List Event
  | [] => (.ok (), r, events)
  | p :: rest =>
    match r.add p.name (build p.scene) p.settings with
    | .error why => (.error ⟨p.name, why⟩, r, events)
    | .ok u => enrollAll build u.registry (events ++ u.events) rest

/-- Registers the declared parts, and says how many there are. -/
def enroll (build : Scene → π) (m : Manifest) (r : Registry π) :
    Except EnrollmentError Nat × Registry π × List Event :=
  let (result, r, events) := enrollAll build r [] m.parts
  (result.map fun () => m.parts.length, r, events)

end Manifest

end DemoReel
