import DemoReel.CommandLine.Library
import DemoReel.Number.Decimal

/-!
# What a command line asks for

A library for command lines (`CommandLine.standard`): one script, and options that each come at most
once, with the value in the same argument behind an equals sign or in the next one. A next argument
that looks like an option is no value. Behind `--` there are no options.
-/

namespace DemoReel.CommandLine

open Number

/-- What a command line asks for. -/
inductive Request where
  | help
  | version
  | play (o : Options)
  deriving DecidableEq, Repr

/-- The options that take a value. -/
inductive OptionName where
  | manifest
  | capture
  | fps
  | width
  | height
  | maxFrames
  deriving DecidableEq, Repr

namespace OptionName

def text : OptionName → String
  | .manifest => "--manifest"
  | .capture => "--capture"
  | .fps => "--fps"
  | .width => "--width"
  | .height => "--height"
  | .maxFrames => "--max-frames"

def ofText? : String → Option OptionName
  | "--manifest" => some .manifest
  | "--capture" => some .capture
  | "--fps" => some .fps
  | "--width" => some .width
  | "--height" => some .height
  | "--max-frames" => some .maxFrames
  | _ => none

theorem ofText?_text (o : OptionName) : ofText? o.text = some o := by cases o <;> rfl

end OptionName

/-- Why a command line asks for nothing. -/
inductive UsageError where
  | unknownOption (argument : String)
  | unexpectedValue (argument : String)
  | missingValue (o : OptionName)
  | badValue (o : OptionName) (value : String)
  | repeated (o : OptionName)
  | repeatedControls
  | tooManyScripts (argument : String)
  | emptyScript
  | noScript
  deriving DecidableEq, Repr

def UsageError.message : UsageError → String
  | .unknownOption argument => "unexpected argument '" ++ argument ++ "' found"
  | .unexpectedValue argument => "unexpected value in '" ++ argument ++ "'"
  | .missingValue o => "a value is required for '" ++ o.text ++ "' but none was supplied"
  | .badValue o value => "invalid value '" ++ value ++ "' for '" ++ o.text ++ "'"
  | .repeated o => "the argument '" ++ o.text ++ "' cannot be used multiple times"
  | .repeatedControls => "the argument '--controls' cannot be used multiple times"
  | .tooManyScripts argument => "unexpected argument '" ++ argument ++ "' found"
  | .emptyScript => "a value is required for '<SCRIPT>' but none was supplied"
  | .noScript => "the following required arguments were not provided: <SCRIPT>"

/-- What has been read of a command line. -/
structure Draft where
  script : Option Path := none
  manifest : Option Path := none
  capture : Option Path := none
  fps : Option Float32 := none
  width : Option Nat := none
  height : Option Nat := none
  maxFrames : Option Nat := none
  controls : Bool := false

/-- A path that is not empty. -/
def path? (value : String) : Option Path := if value = "" then none else some ⟨value⟩

/-- A number of pixels, which may be written as any integer. -/
def pixels? (value : String) : Option Nat :=
  match readInt maxInt64 value.toList with
  | .ok (.ofNat n) => if n ≤ maxUInt32 then some n else none
  | _ => none

def frames? (value : String) : Option Nat := (readNat maxUInt64 value.toList).toOption

def rate? (value : String) : Option Float32 := (readBinary32 value.toList).toOption

namespace Draft

/-- Gives an option that has no value yet the value that `read` makes of a text. -/
def fill {α : Type} (o : OptionName) (value : String) (read : String → Option α)
    (old : Option α) (put : Option α → Draft) : Except UsageError Draft :=
  if old.isSome then .error (.repeated o)
  else match read value with
    | none => .error (.badValue o value)
    | some a => .ok (put (some a))

def setOption (d : Draft) (value : String) : OptionName → Except UsageError Draft
  | .manifest => fill .manifest value path? d.manifest fun v => { d with manifest := v }
  | .capture => fill .capture value path? d.capture fun v => { d with capture := v }
  | .fps => fill .fps value rate? d.fps fun v => { d with fps := v }
  | .width => fill .width value pixels? d.width fun v => { d with width := v }
  | .height => fill .height value pixels? d.height fun v => { d with height := v }
  | .maxFrames => fill .maxFrames value frames? d.maxFrames fun v => { d with maxFrames := v }

def setScript (d : Draft) (argument : String) : Except UsageError Draft :=
  if d.script.isSome then .error (.tooManyScripts argument)
  else match path? argument with
    | none => .error .emptyScript
    | some p => .ok { d with script := some p }

def setControls (d : Draft) : Except UsageError Draft :=
  if d.controls then .error .repeatedControls else .ok { d with controls := true }

def finish (d : Draft) : Except UsageError Request :=
  match d.script with
  | none => .error .noScript
  | some script => .ok (.play {
      script, manifest := d.manifest, capture := d.capture, fps := d.fps, width := d.width
      height := d.height, maxFrames := d.maxFrames, controls := d.controls })

end Draft

/-- What one argument is. -/
inductive Argument where
  /-- The end of the options. -/
  | endOfOptions
  | help
  | version
  | controls
  | option (o : OptionName) (value? : Option String)
  | plain (text : String)
  | faulty (e : UsageError)
  deriving DecidableEq, Repr

/-- The argument before its first equals sign, and what is behind it. -/
def splitValue (argument : String) : String × Option String :=
  match argument.toList.span (· != '=') with
  | (name, _ :: value) => (String.ofList name, some (String.ofList value))
  | (name, []) => (String.ofList name, none)

/-- Tells what an argument is. A lone hyphen is a plain one. -/
def Argument.ofText (argument : String) : Argument :=
  match argument.toList with
  | ['-', '-'] => .endOfOptions
  | '-' :: '-' :: _ =>
    let (name, value?) := splitValue argument
    match OptionName.ofText? name, value? with
    | some o, value? => .option o value?
    | none, none =>
      if name = "--help" then .help
      else if name = "--version" then .version
      else if name = "--controls" then .controls
      else .faulty (.unknownOption argument)
    | none, some _ =>
      if name = "--help" ∨ name = "--version" ∨ name = "--controls" then
        .faulty (.unexpectedValue argument)
      else .faulty (.unknownOption argument)
  | '-' :: 'h' :: _ => .help
  | '-' :: 'V' :: _ => .version
  | '-' :: _ :: _ => .faulty (.unknownOption argument)
  | _ => .plain argument

/-- Reads arguments that are all plain. -/
def readPlain (d : Draft) : List String → Except UsageError Request
  | [] => d.finish
  | argument :: rest => do readPlain (← d.setScript argument) rest

/-- Reads arguments. The first argument is the option that waits for its value, if one does. -/
def readFrom (waiting : Option OptionName) (d : Draft) :
    List String → Except UsageError Request
  | [] =>
    match waiting with
    | some o => .error (.missingValue o)
    | none => d.finish
  | argument :: rest =>
    match waiting, Argument.ofText argument with
    | some o, .plain value => do readFrom none (← d.setOption value o) rest
    | some o, _ => .error (.missingValue o)
    | none, .endOfOptions => readPlain d rest
    | none, .help => .ok .help
    | none, .version => .ok .version
    | none, .controls => do readFrom none (← d.setControls) rest
    | none, .option o none => readFrom (some o) d rest
    | none, .option o (some value) => do readFrom none (← d.setOption value o) rest
    | none, .plain text => do readFrom none (← d.setScript text) rest
    | none, .faulty e => .error e

/-- What a command line asks for. -/
def Request.ofArgs (args : List String) : Except UsageError Request := readFrom none {} args

/-- The help of a program that was called by some name. -/
def helpText (program : String) : String :=
  String.intercalate "\n" [
    "Script-driven demo scheduler: parts, image effects and a frame-capturing playback driver",
    "",
    "Usage: " ++ program ++ " [OPTIONS] <SCRIPT>",
    "",
    "Arguments:",
    "  <SCRIPT>  Command script to play",
    "",
    "Options:",
    "      --manifest <MANIFEST>      Demo manifest declaring settings and parts",
    "      --capture <DIR>            Render offline and write one PNG per frame into this " ++
      "directory",
    "      --fps <FPS>                Frames per second (overrides the manifest)",
    "      --width <WIDTH>            Output width (overrides the manifest)",
    "      --height <HEIGHT>          Output height (overrides the manifest)",
    "      --max-frames <MAX_FRAMES>  Stop after this many frames even without END",
    "      --controls                 Read playback controls from stdin (p, +ms, -ms, q) in " ++
      "live mode",
    "  -h, --help                     Print help",
    "  -V, --version                  Print version",
    ""]

/-- The version of a program that was called by some name. -/
def versionText (program : String) : String := program ++ " 0.1.0\n"

/-- What a program makes of its arguments. -/
def standard : Library := fun program args =>
  match Request.ofArgs args with
  | .ok (.play o) => .ok o
  | .ok .help => .error { asked := true, status := 0, output := helpText program }
  | .ok .version => .error { asked := true, status := 0, output := versionText program }
  | .error why =>
    .error { asked := false, status := 2, errors := "error: " ++ why.message ++ "\n" }

end DemoReel.CommandLine
