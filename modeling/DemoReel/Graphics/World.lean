import DemoReel.Disk
import DemoReel.Journal

/-!
# Graphics backends

Everything that parts, effects and the player ask of a backend is a call, and each call has a type
of reply. A backend is any state that can perform calls; it may read and write files and report
events while it does.
-/

namespace DemoReel

/-- A request to a graphics backend. -/
inductive Call where
  /-- Clears the color of the bound target. -/
  | clear
  | clearDepth
  | draw (q : Quad)
  | bind (t : Target)
  /-- Drops what a part may have set up and not taken back. -/
  | reset
  | present
  | loadTexture (path : Path)
  | loadShader (path : Path) (stage : ShaderStage)
  /-- Writes the framebuffer to a file. -/
  | capture (path : Path)
  deriving DecidableEq, Repr

/-- What a call is answered with. -/
@[reducible] def Call.Reply : Call → Type
  | .loadTexture _ => Except GraphicsError TextureId
  | .loadShader .. => Except GraphicsError ShaderId
  | .present | .capture _ => Except GraphicsError Unit
  | .clear | .clearDepth | .draw _ | .bind _ | .reset => Unit

/-- What playback acts on beside its own state: a backend, the files and the journal. -/
structure World (σ : Type) where
  gfx : σ
  disk : Disk := {}
  journal : Journal := #[]

/-- A type whose values are the states of a graphics backend. -/
class Graphics (σ : Type) where
  perform (c : Call) : World σ → c.Reply × World σ

namespace World

variable {σ : Type}

/-- Reports an event. -/
def note (w : World σ) (e : Event) : World σ := { w with journal := w.journal.push e }

/-- Reports several events in order. -/
def noteAll (w : World σ) (es : List Event) : World σ := es.foldl note w

/-- The world with another journal. -/
def withJournal (w : World σ) (journal : Journal) : World σ := { w with journal }

/-- Performs a call. -/
def call [Graphics σ] (w : World σ) (c : Call) : c.Reply × World σ := Graphics.perform c w

/-- Performs a call whose reply says nothing. -/
def after [Graphics σ] (w : World σ) (c : Call) : World σ := (w.call c).2

/-- Draws quads one after the other. -/
def drawAll [Graphics σ] (w : World σ) (qs : List Quad) : World σ :=
  qs.foldl (fun w q => w.after (.draw q)) w

@[simp] theorem gfx_note (w : World σ) (e : Event) : (w.note e).gfx = w.gfx := rfl

@[simp] theorem disk_note (w : World σ) (e : Event) : (w.note e).disk = w.disk := rfl

/-- Reports go to the journal. -/
theorem noteAll_eq_withJournal (w : World σ) (es : List Event) :
    w.noteAll es = w.withJournal (es.foldl Array.push w.journal) := by
  induction es generalizing w with
  | nil => rfl
  | cons e es ih => exact ih (w.note e)

@[simp] theorem drawAll_nil [Graphics σ] (w : World σ) : w.drawAll [] = w := rfl

@[simp] theorem drawAll_cons [Graphics σ] (w : World σ) (q : Quad) (qs : List Quad) :
    w.drawAll (q :: qs) = (w.after (.draw q)).drawAll qs := rfl

theorem drawAll_append [Graphics σ] (w : World σ) (ps qs : List Quad) :
    w.drawAll (ps ++ qs) = (w.drawAll ps).drawAll qs := List.foldl_append

end World

end DemoReel
