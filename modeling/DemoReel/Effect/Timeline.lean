import DemoReel.Effect.Basic

/-!
# The effect timeline

Effects in the order in which they were added. Each has a number that is never given out again, so a
number keeps its meaning for as long as its effect is there. Effects that are over stay until they
are removed, unless the timeline prunes itself.
-/

namespace DemoReel

/-- Numbered effects, the next number, and whether effects that are over go by themselves. -/
structure Timeline where
  effects : List (Nat × ImageEffect) := []
  nextId : Nat := 0
  autoPrune : Bool := false

namespace Timeline

variable {σ : Type}

def size (t : Timeline) : Nat := t.effects.length

def ids (t : Timeline) : List Nat := t.effects.map (·.1)

/-- The effect with a number. -/
def get? (t : Timeline) (id : Nat) : Option ImageEffect := t.effects.lookup id

/-- Puts an effect at the end, and tells its number: the one that was next. -/
def add (t : Timeline) (e : ImageEffect) : Nat × Timeline :=
  (t.nextId, { t with effects := t.effects ++ [(t.nextId, e)], nextId := t.nextId + 1 })

/-- Takes an effect out and hands it back. -/
def remove (t : Timeline) (id : Nat) : Option ImageEffect × Timeline :=
  (t.get? id, { t with effects := t.effects.filter (·.1 ≠ id) })

/-- Takes all effects out; numbers go on from where they were. -/
def clear (t : Timeline) : Timeline := { t with effects := [] }

def setAutoPrune (t : Timeline) (on : Bool) : Timeline := { t with autoPrune := on }

/-- The effects whose window is open. -/
def activeAt (t : Timeline) (time : Int) : List (Nat × ImageEffect) :=
  t.effects.filter (·.2.window.contains time)

/-- Takes out the effects that are over, and tells how many there were. -/
def prune (t : Timeline) (time : Int) : Nat × Timeline :=
  let kept := t.effects.filter fun e => !e.2.window.expired time
  (t.effects.length - kept.length, { t with effects := kept })

/-- What there is to report about pruning. -/
def pruneEvents (count : Nat) (time : Int) : List Event :=
  if count = 0 then [] else [.effectsPruned count time]

/-- Everything that the effects draw at a time, in order. -/
def quads (t : Timeline) (time : Int) : List Quad := t.effects.flatMap (·.2.quads time)

/-- Draws effects in order, and tells how many of them drew. -/
def drawEach [Graphics σ] (time : Int) :
    List (Nat × ImageEffect) → World σ → Nat × World σ
  | [], w => (0, w)
  | (_, e) :: es, w =>
    let (drew, w) := e.draw time w
    let (count, w) := drawEach time es w
    (drew.toNat + count, w)

/-- Draws the effects in order, and then prunes if that is switched on. Tells how many drew. -/
def apply [Graphics σ] (t : Timeline) (time : Int) (w : World σ) : Nat × Timeline × World σ :=
  let (drawn, w) := drawEach time t.effects w
  if t.autoPrune then
    let (pruned, t) := t.prune time
    (drawn, t, w.noteAll (pruneEvents pruned time))
  else (drawn, t, w)

@[simp] theorem ids_add (t : Timeline) (e : ImageEffect) :
    (t.add e).2.ids = t.ids ++ [t.nextId] := by
  simp [ids, add]

@[simp] theorem effects_clear (t : Timeline) : t.clear.effects = [] := rfl

@[simp] theorem nextId_prune (t : Timeline) (time : Int) : (t.prune time).2.nextId = t.nextId :=
  rfl

theorem mem_prune {t : Timeline} {time : Int} {e : Nat × ImageEffect} :
    e ∈ (t.prune time).2.effects ↔ e ∈ t.effects ∧ e.2.window.expired time = false := by
  simp [prune]

/-- What a drawing does, told from what the effects show. -/
theorem drawEach_eq [Graphics σ] (time : Int) (es : List (Nat × ImageEffect)) (w : World σ) :
    drawEach time es w =
      ((es.filter (·.2.window.contains time)).length,
        w.drawAll (es.flatMap (·.2.quads time))) := by
  induction es generalizing w with
  | nil => rfl
  | cons x es ih =>
    simp only [drawEach, Effect.draw_eq, ih, List.flatMap_cons, World.drawAll_append,
      List.filter_cons]
    cases x.2.window.contains time with
    | true => simp only [if_true, List.length_cons, Bool.toNat_true, Nat.add_comm]
    | false => simp

theorem apply_eq [Graphics σ] (t : Timeline) (time : Int) (w : World σ) :
    t.apply time w =
      ((t.activeAt time).length,
        if t.autoPrune then (t.prune time).2 else t,
        (w.drawAll (t.quads time)).noteAll
          (if t.autoPrune then pruneEvents (t.prune time).1 time else [])) := by
  rw [apply, drawEach_eq]
  cases t.autoPrune <;> rfl

end Timeline

end DemoReel
