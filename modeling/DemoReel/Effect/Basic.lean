import DemoReel.Effect.Window
import DemoReel.Graphics.World

/-!
# Image effects

Full-screen effects that show during a window. An effect is written the same way before and after
its resources are loaded, only over other types of textures and shaders. Main statement: an effect
draws nothing outside its window (`quads_of_not_contains`).
-/

namespace DemoReel

/-- The kinds of effects. -/
inductive EffectKind where
  | negative
  | flash
  | fade
  | overlay
  deriving DecidableEq, Repr

namespace EffectKind

/-- The kind as scripts write it. -/
def text : EffectKind → String
  | .negative => "neg"
  | .flash => "flash"
  | .fade => "fade"
  | .overlay => "overlay"

/-- Reads a kind in lower case. -/
def ofText? : String → Option EffectKind
  | "neg" => some .negative
  | "flash" => some .flash
  | "fade" => some .fade
  | "overlay" => some .overlay
  | _ => none

theorem ofText?_text (k : EffectKind) : ofText? k.text = some k := by cases k <;> rfl

end EffectKind

/-- What an effect shows, with textures of type `τ` and shaders of type `ρ`. -/
inductive EffectContent (τ ρ : Type) where
  /-- The complement of the picture. -/
  | negative
  /-- One pulse of a color. -/
  | flash (color : Color)
  /-- From one color to another, each perhaps with a texture. -/
  | fade (first : Color) (firstTexture : Option τ) (second : Color) (secondTexture : Option τ)
  /-- A texture, perhaps through a shader. -/
  | overlay (texture : τ) (shader : Option ρ)
  deriving DecidableEq, Repr

def EffectContent.kind {τ ρ : Type} : EffectContent τ ρ → EffectKind
  | .negative => .negative
  | .flash .. => .flash
  | .fade .. => .fade
  | .overlay .. => .overlay

/-- An effect and its time span. -/
structure Effect (τ ρ : Type) where
  window : Window
  content : EffectContent τ ρ
  deriving DecidableEq, Repr

/-- An effect whose resources are loaded. -/
abbrev ImageEffect := Effect Texture ShaderId

namespace EffectContent

/-- The quads of an effect at a time, whether or not its window is open. A fade to a texture lays it
over the blended color, more opaque as the fade goes on. -/
def quads (window : Window) (time : Int) : EffectContent Texture ShaderId → List Quad
  | .negative => [{ Quad.fullscreen .white with blend := .invert }]
  | .flash color => [.fullscreen (color.fade (window.pulse time))]
  | .fade first firstTexture second secondTexture =>
    let progress := window.progress time
    let color := first.mix second progress
    let base := { Quad.fullscreen color with texture := firstTexture }
    match secondTexture with
    | none => [base]
    | some t => [base, { Quad.fullscreen (color.fade progress) with texture := some t }]
  | .overlay texture shader =>
    [{ Quad.fullscreen .white with
        texture := some texture
        shader := shader.map fun shader => { shader, params := window.params time } }]

end EffectContent

namespace Effect

/-- What an effect draws at a time: nothing outside its window. -/
def quads (e : ImageEffect) (time : Int) : List Quad :=
  if e.window.contains time then e.content.quads e.window time else []

/-- Draws an effect if its window is open, and tells whether it was. -/
def draw {σ : Type} [Graphics σ] (time : Int) (e : ImageEffect) (w : World σ) : Bool × World σ :=
  if e.window.contains time then (true, w.drawAll (e.content.quads e.window time)) else (false, w)

theorem quads_of_contains {e : ImageEffect} {time : Int} (h : e.window.contains time = true) :
    e.quads time = e.content.quads e.window time := by simp [quads, h]

theorem quads_of_not_contains {e : ImageEffect} {time : Int}
    (h : e.window.contains time = false) : e.quads time = [] := by simp [quads, h]

theorem draw_eq {σ : Type} [Graphics σ] (time : Int) (e : ImageEffect) (w : World σ) :
    e.draw time w = (e.window.contains time, w.drawAll (e.quads time)) := by
  unfold draw
  cases h : e.window.contains time with
  | true => rw [if_pos rfl, quads_of_contains h]
  | false => rw [if_neg Bool.false_ne_true, quads_of_not_contains h, World.drawAll_nil]

end Effect

end DemoReel
