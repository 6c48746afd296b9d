import DemoReel.Effect.Syntax

/-!
# Loading the resources of an effect

Textures and shaders are loaded in the order in which the arguments name them; the first failure
ends it. Names are relative to the directory of the script.
-/

namespace DemoReel

/-- Where asset names start from: the directory of the script, if it has one. -/
structure Assets where
  base : Option Path := none
  deriving DecidableEq, Repr

/-- The path that an asset name stands for. -/
def Assets.resolve (a : Assets) (name : String) : Path :=
  match a.base with
  | some base => base.join ⟨name⟩
  | none => ⟨name⟩

variable {σ : Type} [Graphics σ]

/-- Gives a texture name its handle. -/
def TextureName.load (assets : Assets) (w : World σ) :
    TextureName → Except GraphicsError Texture × World σ
  | .target t => (.ok (.target t), w)
  | .file name =>
    let (reply, w) := w.call (.loadTexture (assets.resolve name))
    (reply.map .loaded, w)

/-- Gives a texture name its handle, if there is one. -/
def TextureName.load? (assets : Assets) (w : World σ) :
    Option TextureName → Except GraphicsError (Option Texture) × World σ
  | none => (.ok none, w)
  | some name =>
    let (reply, w) := name.load assets w
    (reply.map some, w)

/-- Gives a shader name its handle, if there is one. -/
def loadShader? (assets : Assets) (w : World σ) :
    Option String → Except GraphicsError (Option ShaderId) × World σ
  | none => (.ok none, w)
  | some name =>
    let (reply, w) := w.call (.loadShader (assets.resolve name) .fragment)
    (reply.map some, w)

namespace EffectContent

/-- Loads what the content of an effect names. -/
def load (assets : Assets) (w : World σ) :
    EffectContent TextureName String →
      Except GraphicsError (EffectContent Texture ShaderId) × World σ
  | .negative => (.ok .negative, w)
  | .flash color => (.ok (.flash color), w)
  | .fade first firstTexture second secondTexture =>
    match TextureName.load? assets w firstTexture with
    | (.error e, w) => (.error e, w)
    | (.ok firstTexture, w) =>
      match TextureName.load? assets w secondTexture with
      | (.error e, w) => (.error e, w)
      | (.ok secondTexture, w) => (.ok (.fade first firstTexture second secondTexture), w)
  | .overlay texture shader =>
    match texture.load assets w with
    | (.error e, w) => (.error e, w)
    | (.ok texture, w) =>
      match loadShader? assets w shader with
      | (.error e, w) => (.error e, w)
      | (.ok shader, w) => (.ok (.overlay texture shader), w)

end EffectContent

namespace Effect

/-- Loads what an effect names. -/
def load (assets : Assets) (draft : EffectDraft) (w : World σ) :
    Except GraphicsError ImageEffect × World σ :=
  let (reply, w) := draft.content.load assets w
  (reply.map fun content => { window := draft.window, content }, w)

/-- Reads the arguments of an effect command and loads what they name. Arguments with a fault in
them load nothing. -/
def ofArgs (assets : Assets) (args : List String) (w : World σ) :
    Except EffectError ImageEffect × World σ :=
  match EffectDraft.ofArgs args with
  | .error e => (.error e, w)
  | .ok draft =>
    let (reply, w) := load assets draft w
    (reply.mapError .resource, w)

end Effect

end DemoReel
