/-!
# Render targets

Four offscreen surfaces, which scripts call `t0` to `t3`, and the framebuffer, `fb`.
-/

namespace DemoReel

/-- Where drawing goes. -/
inductive Target where
  | offscreen (index : Fin 4)
  | framebuffer
  deriving DecidableEq, Repr, Inhabited

namespace Target

/-- Every target, the framebuffer last. -/
def all : List Target := [.offscreen 0, .offscreen 1, .offscreen 2, .offscreen 3, .framebuffer]

/-- The name of a target in scripts. -/
def text : Target → String
  | .offscreen 0 => "t0"
  | .offscreen 1 => "t1"
  | .offscreen 2 => "t2"
  | .offscreen 3 => "t3"
  | .framebuffer => "fb"

/-- The target that a script names; case matters. -/
def ofText? : String → Option Target
  | "t0" => some (.offscreen 0)
  | "t1" => some (.offscreen 1)
  | "t2" => some (.offscreen 2)
  | "t3" => some (.offscreen 3)
  | "fb" => some .framebuffer
  | _ => none

/-- The number of an offscreen surface. -/
def index? : Target → Option (Fin 4)
  | .offscreen i => some i
  | .framebuffer => none

/-- All targets have a place among five surfaces; the framebuffer is the last. -/
def slot : Target → Fin 5
  | .offscreen i => i.castSucc
  | .framebuffer => 4

theorem ofText?_text (t : Target) : ofText? t.text = some t := by
  match t with
  | .offscreen 0 | .offscreen 1 | .offscreen 2 | .offscreen 3 | .framebuffer => rfl

theorem slot_injective : ∀ {s t : Target}, s.slot = t.slot → s = t
  | .framebuffer, .framebuffer, _ => rfl
  | .framebuffer, .offscreen i, h => absurd h (by revert i; decide)
  | .offscreen i, .framebuffer, h => absurd h (by revert i; decide)
  | .offscreen i, .offscreen j, h => congrArg offscreen (Fin.castSucc_inj.1 h)

end Target

end DemoReel
