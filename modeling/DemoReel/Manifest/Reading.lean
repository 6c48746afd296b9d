import DemoReel.Manifest.Basic
import DemoReel.Number.Decimal
import DemoReel.Number.Shortest
import DemoReel.Script.Literal
import DemoReel.Xml.Tree

/-!
# Manifests as documents

A manifest is a `demo` element with perhaps a `settings` element and any number of `part` elements
in it. A value is the text that an element starts with, without white space around it; an empty
value counts as none, and what is left out has its default.
-/

namespace DemoReel

open Number

/-- Why a document is no manifest. -/
inductive ManifestFault where
  /-- The text is no document. -/
  | notXml
  | wrongRoot (name : String)
  | missing (tag : String)
  | badInteger (text : String) (why : IntegerFault)
  | badDecimal (text : String) (why : DecimalFault)
  | badFlag (text : String)
  | noArea (width height : Nat)
  | badRate (fps : Float32)
  | unknownKind (text : String)
  | badTarget (text : String)
  | badPeriod (text : String)
  | badComponent (text : String) (why : DecimalFault)
  | componentCount (count : Nat)
  /-- A fault in the declaration of one part. -/
  | inPart (name : String) (why : ManifestFault)
  deriving DecidableEq, Repr

namespace ManifestFault

/-- The message, and below it those of the causes. -/
def chain : ManifestFault → List String
  | .notXml => ["invalid manifest XML"]
  | .wrongRoot name => ["expected <demo> root element, found <" ++ name ++ ">"]
  | .missing tag => ["<" ++ tag ++ "> tag is missing"]
  | .badInteger text why => ["failed to parse `" ++ text ++ "`: " ++ why.message]
  | .badDecimal text why => ["failed to parse `" ++ text ++ "`: " ++ why.message]
  | .badFlag text => ["expected true or false, found `" ++ text ++ "`"]
  | .noArea width height =>
    ["resolution must be non-zero, got " ++ String.ofList (digits width) ++ "x" ++
      String.ofList (digits height)]
  | .badRate fps => ["fps must be positive, got " ++ binary32Text fps]
  | .unknownKind text => ["unknown part kind `" ++ text ++ "`"]
  | .badTarget text => ["invalid render target `" ++ text ++ "`"]
  | .badPeriod text => ["invalid period `" ++ text ++ "`"]
  | .badComponent text why => ["invalid color component `" ++ text ++ "`: " ++ why.message]
  | .componentCount count =>
    ["color needs 3 or 4 components, found " ++ String.ofList (digits count)]
  | .inPart name why => ("invalid part `" ++ name ++ "`") :: why.chain

end ManifestFault

namespace Xml.Element

/-- The value of the first element with a name, if it has one. -/
def value? (e : Element) (tag : String) : Option String :=
  ((e.named tag).head?.bind text?).bind fun t =>
    let t := DemoReel.Text.trimmed t
    if t = "" then none else some t

end Xml.Element

/-- What `read` makes of a value, or the default where there is none. -/
def valueOr (e : Xml.Element) (tag : String) (default : α)
    (read : String → Except ManifestFault α) : Except ManifestFault α :=
  match e.value? tag with
  | none => .ok default
  | some t => read t

/-- A number of pixels. -/
def readPixels (t : String) : Except ManifestFault Nat :=
  (readNat maxUInt32 t.toList).mapError (.badInteger t)

def readDecimal (t : String) : Except ManifestFault Float32 :=
  (readBinary32 t.toList).mapError (.badDecimal t)

def readFlag (t : String) : Except ManifestFault Bool :=
  match Script.boolean? t with
  | some b => .ok b
  | none => .error (.badFlag t)

/-- Three or four components from 0 to 255; without a fourth the color is opaque. -/
def readColor (t : String) : Except ManifestFault Color := do
  let components ← (DemoReel.Text.words t.toList).mapM fun w =>
    (readBinary32 w).mapError (.badComponent (String.ofList w))
  match components with
  | [r, g, b] => .ok (Color.divide ⟨r, g, b, 255⟩ 255)
  | [r, g, b, a] => .ok (Color.divide ⟨r, g, b, a⟩ 255)
  | _ => .error (.componentCount components.length)

/-- A value that is known by name, or a fault. -/
def readNamed (known : String → Option α) (fault : String → ManifestFault) (t : String) :
    Except ManifestFault α :=
  match known t with
  | some a => .ok a
  | none => .error (fault t)

namespace Settings

/-- The settings that an element holds. Frames have an area, and their rate is a positive number. -/
def ofElement (e : Xml.Element) : Except ManifestFault Settings := do
  let defaults : Settings := {}
  let width ← valueOr e "width" defaults.width readPixels
  let height ← valueOr e "height" defaults.height readPixels
  let fps ← valueOr e "fps" defaults.fps readDecimal
  let pruneEffects ← valueOr e "prune-effects" defaults.pruneEffects readFlag
  if width = 0 ∨ height = 0 then .error (.noArea width height)
  else if fps.isFinite ∧ 0 < fps then .ok { width, height, fps, pruneEffects }
  else .error (.badRate fps)

end Settings

namespace PartSpec

/-- The rest of a part that is declared under a name. -/
def ofElement (name : String) (e : Xml.Element) : Except ManifestFault PartSpec := do
  let kind ← valueOr e "kind" .solid (readNamed PartKind.ofText? .unknownKind)
  let target ← valueOr e "target" .framebuffer (readNamed Target.ofText? .badTarget)
  let period ← valueOr e "period" Scene.defaultPeriod (readNamed Script.timestamp? .badPeriod)
  let color ← valueOr e "color" .white readColor
  let clear ← valueOr e "clear" false readFlag
  return { name, kind, color, target, clear, period }

end PartSpec

namespace Manifest

/-- A declared part; it needs a name. -/
def partOfElement (e : Xml.Element) : Except ManifestFault PartSpec :=
  match e.value? "name" with
  | none => .error (.missing "name")
  | some name => (PartSpec.ofElement name e).mapError (.inPart name)

/-- The manifest that a root element holds. -/
def ofElement (root : Xml.Element) : Except ManifestFault Manifest := do
  if root.name.base ≠ "demo" then .error (.wrongRoot root.name.base)
  else
    let settings ← match (root.named "settings").head? with
      | some e => Settings.ofElement e
      | none => .ok {}
    let parts ← (root.named "part").mapM partOfElement
    return { settings, parts }

/-- The manifest that a text holds, as a library for XML reads it. -/
def ofXml (xml : Xml.Library) (text : String) : Except ManifestFault Manifest :=
  match xml text with
  | some root => ofElement root
  | none => .error .notXml

end Manifest

end DemoReel
