import DemoReel.Dispatch

/-!
# The standard table

What a command of the standard table does can be told from the command alone: it is refused, it ends
the reel, it asks something of the registry, or it loads an effect. Main statement: that is all that
the table does (`dispatch_eq_carryOut`).
-/

namespace DemoReel

variable {π σ : Type}

namespace Registry

/-- What a command can ask of the registry. -/
inductive Request where
  | start (name : String)
  | stop (name : String)
  | rename (name new : String)
  | configure (name : String) (f : PartSettings → PartSettings)

/-- What comes of a request that is made at a time. -/
def Request.on (time : Int) (r : Registry π) : Request → Except RegistryError (Update π)
  | .start name => r.start name time
  | .stop name => r.stop name
  | .rename name new => r.rename name new
  | .configure name f => r.configure name f

end Registry

/-- What a command stands for. -/
inductive Deed where
  | refuse (why : CommandError)
  | finish
  | ask (request : Registry.Request)
  | load (c : Command)

namespace Deed

/-- The deed ends the reel. -/
def ends : Deed → Bool
  | .finish => true
  | _ => false

def carryOut [Graphics σ] (assets : Assets) (time : Int) (st : Stage π σ) :
    Deed → Except CommandError Verdict × Stage π σ
  | .refuse why => (.error why, st)
  | .finish => (.ok .endOfReel, st)
  | .ask request => Handler.updating (request.on time st.registry) st
  | .load c => Handler.effect c assets time st

end Deed

/-- What a command stands for in the standard table. -/
def Command.deed (c : Command) : Deed :=
  match c.keyword, c.args with
  | .startPart, [name] => .ask (.start name)
  | .endPart, [name] => .ask (.stop name)
  | .renamePart, [name, new] => .ask (.rename name new)
  | .setTarget, [name, token] =>
    match Target.ofText? token with
    | some target => .ask (.configure name fun s => { s with target })
    | none => .refuse (.invalidTarget token)
  | .setClear, [name, token] =>
    match Script.boolean? token with
    | some clear => .ask (.configure name fun s => { s with clear })
    | none => .refuse (.invalidBoolean token)
  | .finish, [] => .finish
  | .effect, _ => .load c
  | keyword, _ => .refuse (.arity keyword)

theorem CommandTable.dispatch_eq_carryOut [Graphics σ] (c : Command) (assets : Assets) (time : Int)
    (st : Stage π σ) :
    standard.dispatch c assets time st = c.deed.carryOut assets time st := by
  obtain ⟨due, keyword, args, line⟩ := c
  unfold dispatch Command.deed
  cases keyword with
  | startPart =>
    rcases args with - | ⟨name, - | ⟨new, rest⟩⟩ <;> rfl
  | endPart =>
    rcases args with - | ⟨name, - | ⟨new, rest⟩⟩ <;> rfl
  | renamePart =>
    rcases args with - | ⟨name, - | ⟨new, - | ⟨more, rest⟩⟩⟩ <;> rfl
  | setTarget =>
    rcases args with - | ⟨name, - | ⟨token, - | ⟨more, rest⟩⟩⟩
    · rfl
    · rfl
    · simp only [standard, Handler.setTarget]
      cases Target.ofText? token <;> rfl
    · rfl
  | setClear =>
    rcases args with - | ⟨name, - | ⟨token, - | ⟨more, rest⟩⟩⟩
    · rfl
    · rfl
    · simp only [standard, Handler.setClear]
      cases Script.boolean? token <;> rfl
    · rfl
  | finish =>
    rcases args with - | ⟨name, rest⟩ <;> rfl
  | effect => rfl

end DemoReel
