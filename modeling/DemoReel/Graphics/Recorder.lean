import DemoReel.Graphics.World

/-!
# Recording what a backend is asked for

A recorder writes every call down before it hands it on, so that a call that fails is on record too.
Whoever draws may put marks of its own between the calls. To rehearse the loss of a screen, a
recorder can refuse to present frames.
-/

namespace DemoReel

/-- A backend with a record of the calls to it and of marks of type `μ`. -/
structure Recorder (μ σ : Type) where
  inner : σ
  entries : Array (Call ⊕ μ) := #[]
  /-- Why frames cannot be presented, if they cannot. -/
  presentFault : Option String := none

namespace Recorder

variable {μ σ : Type}

/-- Puts a mark on record. -/
def mark (m : μ) (w : World (Recorder μ σ)) : World (Recorder μ σ) :=
  { w with gfx := { w.gfx with entries := w.gfx.entries.push (.inr m) } }

/-- Puts a call on record. -/
def record (c : Call) (w : World (Recorder μ σ)) : World (Recorder μ σ) :=
  { w with gfx := { w.gfx with entries := w.gfx.entries.push (.inl c) } }

/-- Performs a call on the backend behind the recorder. -/
def forward [Graphics σ] (c : Call) (w : World (Recorder μ σ)) :
    c.Reply × World (Recorder μ σ) :=
  let (reply, inner) := Graphics.perform c { w with gfx := w.gfx.inner }
  (reply, { inner with gfx := { w.gfx with inner := inner.gfx } })

instance [Graphics σ] : Graphics (Recorder μ σ) where
  perform
    | .present, w =>
      match w.gfx.presentFault with
      | some why => (.error (.present why), record .present w)
      | none => forward .present (record .present w)
    | c, w => forward c (record c w)

end Recorder

end DemoReel
