import DemoReel.Fault
import DemoReel.Graphics.Quad
import DemoReel.Image.Format
import DemoReel.Number.Shortest
import DemoReel.Path
import DemoReel.Script.Command
import DemoReel.Text.Quoted

/-!
# What can go wrong

The causes of failure, one type for each layer, and the words for each cause. An outer layer holds
the inner cause as it is and adds no words of its own to it.
-/

namespace DemoReel

/-- Why a resource is of no use to a graphics backend. -/
inductive ResourceFault where
  | file (f : Fault)
  /-- The extension of the name stands for no picture format. -/
  | unknownFormat (extension? : Option String)
  /-- The content is no picture in the format of its name. -/
  | undecodable (format : ImageFormat)
  /-- Pictures in this format are not read. -/
  | unreadable (format : ImageFormat)
  /-- Frames cannot be kept in this format. -/
  | unwritable (format : ImageFormat)
  | blankSource
  | notFound
  deriving DecidableEq, Repr

namespace ResourceFault

def message : ResourceFault → String
  | .file f => f.message
  | .unknownFormat none => "The image format could not be determined"
  | .unknownFormat (some e) =>
    "The file extension `." ++ Text.quoted e ++ "` was not recognized as an image format"
  | .undecodable .png => "Format error decoding Png: Invalid PNG signature."
  | .undecodable format => "Format error decoding " ++ format.text
  | .unwritable .jpeg =>
    "The encoder or decoder for Jpeg does not support the color type `Rgba8`"
  | .unreadable format | .unwritable format =>
    "The image format `" ++ format.text ++ "` is not supported"
  | .blankSource => "shader source is empty"
  | .notFound => "not found"

end ResourceFault

/-- Failure of a graphics backend. -/
inductive GraphicsError where
  | texture (path : Path) (why : ResourceFault)
  | shader (path : Path) (why : ResourceFault)
  | capture (path : Path) (why : ResourceFault)
  | present (why : String)
  deriving DecidableEq, Repr

def GraphicsError.message : GraphicsError → String
  | .texture p why => "unable to load texture " ++ p.text ++ ": " ++ why.message
  | .shader p why => "unable to load shader " ++ p.text ++ ": " ++ why.message
  | .capture p why => "unable to capture frame to " ++ p.text ++ ": " ++ why.message
  | .present why => "unable to present frame: " ++ why

/-- A request that the part registry refuses. -/
inductive RegistryError where
  | emptyName
  | unknownPart (name : String)
  | notRunning (name : String)
  deriving DecidableEq, Repr

def RegistryError.message : RegistryError → String
  | .emptyName => "part name must not be empty"
  | .unknownPart name => "no part named `" ++ name ++ "` is registered"
  | .notRunning name => "part `" ++ name ++ "` is not running"

/-- The arguments of an effect. -/
inductive EffectArgument where
  | kind
  | start
  | duration
  /-- Start and duration together. -/
  | window
  | firstColor
  | secondColor
  | texture
  deriving DecidableEq, Repr

def EffectArgument.text : EffectArgument → String
  | .kind => "effect kind"
  | .start => "start time"
  | .duration => "duration"
  | .window => "effect window"
  | .firstColor => "first color"
  | .secondColor => "second color"
  | .texture => "texture"

/-- Arguments that describe no effect, or an effect whose resources fail to load. -/
inductive EffectError where
  | unknownKind (kind : String)
  | missing (what : EffectArgument)
  | invalidTime (what : EffectArgument) (value : String)
  | invalidColor (token : String)
  | invalidRegister (token : String)
  | trailing (token : String)
  | resource (e : GraphicsError)
  deriving DecidableEq, Repr

def EffectError.message : EffectError → String
  | .unknownKind kind => "unknown effect kind `" ++ kind ++ "`"
  | .missing what => "missing " ++ what.text ++ " argument"
  | .invalidTime what value => "invalid " ++ what.text ++ " `" ++ value ++ "`"
  | .invalidColor token => "malformed color literal `" ++ token ++ "`"
  | .invalidRegister token =>
    "texture register `" ++ token ++ "` is out of range (expected t0..t3)"
  | .trailing token => "unexpected trailing argument `" ++ token ++ "`"
  | .resource e => e.message

/-- What a command takes, in words. -/
def Keyword.usage : Keyword → String
  | .startPart | .endPart => "a part name"
  | .renamePart => "a part name and a new name"
  | .setTarget => "a part name and a render target"
  | .setClear => "a part name and true|false"
  | .finish => "no arguments"
  | .effect => "an effect"

/-- Failure of one command. -/
inductive CommandError where
  | arity (keyword : Keyword)
  | invalidTarget (token : String)
  | invalidBoolean (token : String)
  | noHandler (keyword : Keyword)
  | registry (e : RegistryError)
  | effect (e : EffectError)
  deriving DecidableEq, Repr

namespace CommandError

def message : CommandError → String
  | .arity keyword => keyword.text ++ " expects " ++ keyword.usage
  | .invalidTarget token => "invalid render target `" ++ token ++ "` (expected fb or t0..t3)"
  | .invalidBoolean token => "invalid boolean `" ++ token ++ "` (expected true or false)"
  | .noHandler keyword => "no handler registered for " ++ keyword.text
  | .registry e => e.message
  | .effect e => e.message

/-- Whether the command was sound and only a file or the backend let it down. -/
def isResource : CommandError → Bool
  | .effect (.resource _) => true
  | _ => false

end CommandError

/-- A command table that leaves a keyword without a handler. -/
inductive TableError where
  | missingHandler (keyword : Keyword)
  deriving DecidableEq, Repr

def TableError.message : TableError → String
  | .missingHandler keyword => "no handler registered for " ++ keyword.text

/-- A script that cannot be opened, or a line of it that cannot be read. -/
inductive ScriptError where
  | opening (path : Path) (why : Fault)
  | reading (line : Nat) (why : Fault)
  deriving DecidableEq, Repr

namespace ScriptError

def message : ScriptError → String
  | .opening path why => "unable to open script " ++ path.text ++ ": " ++ why.message
  | .reading line why =>
    "failed to read script line " ++ String.ofList (Number.digits line) ++ ": " ++ why.message

/-- The fault behind it. -/
def fault : ScriptError → Fault
  | .opening _ why => why
  | .reading _ why => why

end ScriptError

/-- What ends a run short. -/
inductive RunError where
  | script (e : ScriptError)
  | graphics (e : GraphicsError)
  | exhausted (frames : Nat)
  | frameRate (fps : Float32)
  | captureDir (path : Path) (why : Fault)
  deriving DecidableEq, Repr

namespace RunError

def message : RunError → String
  | .script e => e.message
  | .graphics e => e.message
  | .exhausted frames =>
    "script ended without an END command after " ++ String.ofList (Number.digits frames) ++
      " frame(s)"
  | .frameRate fps => "frame rate must be positive, got " ++ Number.binary32Text fps
  | .captureDir path why => "capture directory " ++ path.text ++ ": " ++ why.message

/-- The message, and below it those of the causes. -/
def chain (e : RunError) : List String :=
  e.message :: match e with
    | .script s => [s.fault.message]
    | .captureDir _ why => [why.message]
    | _ => []

end RunError

end DemoReel
