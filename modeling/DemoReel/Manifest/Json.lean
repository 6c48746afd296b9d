import DemoReel.Json.Library
import DemoReel.Manifest.Basic

/-!
# Manifests as JSON

Every record is written with all its fields; where a field is left out, it has its default when it
is read. Nothing is checked but the kinds of the fields.
-/

namespace DemoReel

variable (J : Json.Library)

namespace Color

def toJson (c : Color) : J.Data :=
  J.ofList [J.ofBinary32 c.red, J.ofBinary32 c.green, J.ofBinary32 c.blue, J.ofBinary32 c.alpha]

/-- Four numbers. -/
def ofJson? (v : J.Data) : Option Color :=
  match J.list? v with
  | some [r, g, b, a] =>
    return ⟨← J.binary32? r, ← J.binary32? g, ← J.binary32? b, ← J.binary32? a⟩
  | _ => none

end Color

namespace Target

/-- The name of a target in JSON. -/
def jsonName : Target → String
  | .offscreen 0 => "Tex0"
  | .offscreen 1 => "Tex1"
  | .offscreen 2 => "Tex2"
  | .offscreen 3 => "Tex3"
  | .framebuffer => "Framebuffer"

def ofJsonName? (s : String) : Option Target := all.find? (·.jsonName == s)

theorem ofJsonName?_jsonName (t : Target) : ofJsonName? t.jsonName = some t := by
  match t with
  | .offscreen 0 | .offscreen 1 | .offscreen 2 | .offscreen 3 | .framebuffer => rfl

end Target

namespace PartKind

/-- The kind with a name; unlike in documents, case matters. -/
def ofJsonName? : String → Option PartKind
  | "solid" => some .solid
  | "pulse" => some .pulse
  | _ => none

theorem ofJsonName?_text (k : PartKind) : ofJsonName? k.text = some k := by cases k <;> rfl

end PartKind

namespace Settings

def jsonNames : List String := ["width", "height", "fps", "prune-effects"]

def toJson (s : Settings) : J.Data := J.ofFields [
  ("width", J.ofInt s.width), ("height", J.ofInt s.height), ("fps", J.ofBinary32 s.fps),
  ("prune-effects", J.ofBool s.pruneEffects)]

/-- A number of pixels. -/
def pixels? (v : J.Data) : Option Nat := (J.integer? 0 Number.maxUInt32 v).map Int.toNat

def ofJson? (v : J.Data) : Option Settings := do
  let fs ← J.fields? jsonNames v
  let defaults : Settings := {}
  return {
    width := ← Json.fieldOr fs "width" defaults.width (pixels? J)
    height := ← Json.fieldOr fs "height" defaults.height (pixels? J)
    fps := ← Json.fieldOr fs "fps" defaults.fps J.binary32?
    pruneEffects := ← Json.fieldOr fs "prune-effects" defaults.pruneEffects J.bool? }

end Settings

namespace PartSpec

def jsonNames : List String := ["name", "kind", "color", "target", "clear", "period"]

def toJson (p : PartSpec) : J.Data := J.ofFields [
  ("name", J.ofString p.name), ("kind", J.ofString p.kind.text), ("color", p.color.toJson J),
  ("target", J.ofString p.target.jsonName), ("clear", J.ofBool p.clear),
  ("period", J.ofInt p.period)]

/-- A part; it needs a name. -/
def ofJson? (v : J.Data) : Option PartSpec := do
  let fs ← J.fields? jsonNames v
  return {
    name := ← (fs.lookup "name").bind J.text?
    kind := ← Json.fieldOr fs "kind" .solid fun v => (J.word? v).bind PartKind.ofJsonName?
    color := ← Json.fieldOr fs "color" .white (Color.ofJson? J)
    target := ← Json.fieldOr fs "target" .framebuffer fun v =>
      (J.word? v).bind Target.ofJsonName?
    clear := ← Json.fieldOr fs "clear" false J.bool?
    period := ← Json.fieldOr fs "period" Scene.defaultPeriod
      (J.integer? Number.minInt64 Number.maxInt64) }

end PartSpec

namespace Manifest

def jsonNames : List String := ["settings", "parts"]

def toJson (m : Manifest) : J.Data := J.ofFields [
  ("settings", m.settings.toJson J), ("parts", J.ofList (m.parts.map (·.toJson J)))]

/-- The parts that a list holds. -/
def partsOfJson? (v : J.Data) : Option (List PartSpec) :=
  (J.list? v).bind (·.mapM (PartSpec.ofJson? J))

def ofJson? (v : J.Data) : Option Manifest := do
  let fs ← J.fields? jsonNames v
  return {
    settings := ← Json.fieldOr fs "settings" {} (Settings.ofJson? J)
    parts := ← Json.fieldOr fs "parts" [] (partsOfJson? J) }

/-- The manifest that a JSON text holds. -/
def ofJsonText? (text : String) : Option Manifest := (J.read text).bind (ofJson? J)

/-- The JSON text of a manifest. -/
def jsonText (m : Manifest) : String := J.write (m.toJson J)

end Manifest

end DemoReel
