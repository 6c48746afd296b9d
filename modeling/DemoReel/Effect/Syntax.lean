import DemoReel.Effect.Basic
import DemoReel.Error
import DemoReel.Script.Literal

/-!
# Effects as scripts write them

`<kind> <start> <duration>`, and after it

* `neg`: nothing,
* `flash`: perhaps a color,
* `fade`: a color, perhaps a texture, a color, perhaps a texture,
* `overlay`: a texture, perhaps a shader.

Reading checks all arguments and touches no file: its result names textures and shaders that are
still to be loaded.
-/

namespace DemoReel

open Script (timestamp? color?)

/-- A texture that a script names. -/
inductive TextureName where
  | target (t : Target)
  | file (name : String)
  deriving DecidableEq, Repr

/-- An effect whose resources are not loaded yet. -/
abbrev EffectDraft := Effect TextureName String

namespace TextureName

/-- The file that is named, if one is. -/
def file? : TextureName → Option String
  | .target _ => none
  | .file name => some name

/-- The word has the form of a target's name: `t` and digits. -/
def isRegister (token : String) : Bool :=
  match token.toList with
  | 't' :: d :: ds => (d :: ds).all fun c => (Number.digit? c).isSome
  | _ => false

/-- A word in the form of a target's name must be one; all others name files. -/
def ofToken (token : String) : Except EffectError TextureName :=
  if isRegister token then
    match Target.ofText? token with
    | some t => .ok (.target t)
    | none => .error (.invalidRegister token)
  else .ok (.file token)

/-- Like `ofToken`, where `0` and `-` stand for no texture. -/
def ofToken? (token : String) : Except EffectError (Option TextureName) :=
  if token = "0" ∨ token = "-" then .ok none else (ofToken token).map some

end TextureName

namespace EffectDraft

/-- The first argument and the ones after it. -/
def required (what : EffectArgument) : List String → Except EffectError (String × List String)
  | [] => .error (.missing what)
  | token :: rest => .ok (token, rest)

/-- A time. -/
def timeArg (what : EffectArgument) (args : List String) :
    Except EffectError (Int × List String) := do
  let (token, rest) ← required what args
  match timestamp? token with
  | some t => .ok (t, rest)
  | none => .error (.invalidTime what token)

/-- A color. -/
def colorArg (what : EffectArgument) (args : List String) :
    Except EffectError (Color × List String) := do
  let (token, rest) ← required what args
  match color? token with
  | some c => .ok (c, rest)
  | none => .error (.invalidColor token)

/-- A texture, unless a color or nothing comes next. -/
def optionalTexture : List String → Except EffectError (Option TextureName × List String)
  | [] => .ok (none, [])
  | token :: rest =>
    if token.toList.head? = some '<' then .ok (none, token :: rest)
    else (TextureName.ofToken? token).map (·, rest)

/-- The kind; the case of ASCII letters does not matter. -/
def kindArg (args : List String) : Except EffectError (EffectKind × List String) := do
  let (token, rest) ← required .kind args
  let word := String.ofList (token.toList.map Char.toLower)
  match EffectKind.ofText? word with
  | some k => .ok (k, rest)
  | none => .error (.unknownKind word)

/-- Start and duration. The duration is positive and the end lies in the time range. -/
def windowArgs (args : List String) : Except EffectError (Window × List String) := do
  let (start, rest) ← timeArg .start args
  let (duration, rest) ← timeArg .duration rest
  if duration = 0 then .error (.invalidTime .duration "0")
  else if (Number.maxInt64 : Int) < start + duration then
    .error (.invalidTime .window
      (Number.integerText start ++ "+" ++ Number.integerText duration))
  else .ok ({ start, duration }, rest)

/-- The arguments that a kind takes after the window. -/
def contentArgs (args : List String) :
    EffectKind → Except EffectError (EffectContent TextureName String × List String)
  | .negative => .ok (.negative, args)
  | .flash =>
    match args with
    | [] => .ok (.flash .white, [])
    | args => do
      let (color, rest) ← colorArg .firstColor args
      .ok (.flash color, rest)
  | .fade => do
    let (first, rest) ← colorArg .firstColor args
    let (firstTexture, rest) ← optionalTexture rest
    let (second, rest) ← colorArg .secondColor rest
    let (secondTexture, rest) ← optionalTexture rest
    .ok (.fade first firstTexture second secondTexture, rest)
  | .overlay => do
    let (token, rest) ← required .texture args
    let texture ← TextureName.ofToken token
    .ok (.overlay texture rest.head?, rest.tail)

/-- The files that an effect needs, in the order of its arguments. -/
def files (e : EffectDraft) : List String :=
  match e.content with
  | .negative | .flash _ => []
  | .fade _ t _ u => (t.bind TextureName.file?).toList ++ (u.bind TextureName.file?).toList
  | .overlay t shader => t.file?.toList ++ shader.toList

/-- Reads the arguments of an effect command. -/
def ofArgs (args : List String) : Except EffectError EffectDraft := do
  let (kind, rest) ← kindArg args
  let (window, rest) ← windowArgs rest
  let (content, rest) ← contentArgs rest kind
  match rest with
  | [] => .ok { window, content }
  | token :: _ => .error (.trailing token)

end EffectDraft

end DemoReel
