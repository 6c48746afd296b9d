import DemoReel.Error
import DemoReel.Playback.Control
import DemoReel.Script.Line

/-!
# The journal

What playback reports while it goes on, in order. An entry is the event itself; its level and its
words follow from it.
-/

namespace DemoReel

/-- How much an entry matters; the first matters most. -/
inductive Level where
  | error
  | warn
  | info
  | debug
  | trace
  deriving DecidableEq, Repr

namespace Level

def rank : Level → Nat
  | .error => 1
  | .warn => 2
  | .info => 3
  | .debug => 4
  | .trace => 5

def text : Level → String
  | .error => "error"
  | .warn => "warn"
  | .info => "info"
  | .debug => "debug"
  | .trace => "trace"

end Level

/-- Something worth reporting. -/
inductive Event where
  | lineSkipped (line : Nat) (why : Script.LineFault) (raw : String)
  | commandRead (c : Command)
  | registrationReplaced (name : String)
  | removedWhileRunning (name : String)
  | partRestarted (name : String) (time : Int)
  | renameReplaced (name new : String)
  | partFailed (name : String) (why : String)
  | effectAdded (kind : String) (id : Nat) (start stop : Int)
  | effectsPruned (count : Nat) (time : Int)
  | scriptLoaded
  | scriptRestarted (time : Int)
  | dispatched (time : Int) (c : Command)
  | endReached (time : Int) (line : Nat)
  | commandFailed (c : Command) (why : CommandError)
  | textureLoaded (path : Path) (width height : Nat)
  | shaderLoaded (stage : ShaderStage) (path : Path)
  | frameRendered (index : Nat) (time : Int) (commands parts effects : Nat)
  | capturing (dir : Path)
  | scriptExhausted (frames : Nat)
  | playbackStopped (frames : Nat)
  | workingDirLost (dir : Path) (why : Fault)
  | unknownControl (text : String)
  | controlApplied (c : Control) (now : Int)
  | controlFailed (c : Control) (why : ScriptError)
  | controlInputFailed (why : Fault)
  | controlsIgnored
  deriving DecidableEq, Repr

namespace Event

def level : Event → Level
  | .partFailed .. => .error
  | .commandFailed _ why => if why.isResource then .error else .warn
  | .lineSkipped .. | .registrationReplaced _ | .removedWhileRunning _ | .renameReplaced ..
  | .scriptExhausted _ | .workingDirLost .. | .unknownControl _ | .controlFailed ..
  | .controlInputFailed _ | .controlsIgnored => .warn
  | .scriptLoaded | .endReached .. | .capturing _ | .playbackStopped _ | .controlApplied .. =>
    .info
  | .partRestarted .. | .effectAdded .. | .effectsPruned .. | .scriptRestarted _ | .dispatched ..
  | .textureLoaded .. | .shaderLoaded .. | .frameRendered .. => .debug
  | .commandRead _ => .trace

private def nat (n : Nat) : String := String.ofList (Number.digits n)

private def int (i : Int) : String := Number.integerText i

def message : Event → String
  | .lineSkipped line why raw =>
    "script line " ++ nat line ++ ": " ++ why.message ++ ", skipping `" ++ Text.trimmedEnd raw ++
      "`"
  | .commandRead c => "script line " ++ nat c.line ++ ": " ++ c.text
  | .registrationReplaced name =>
    "part `" ++ name ++ "` registered twice; replacing the earlier registration"
  | .removedWhileRunning name => "removing part `" ++ name ++ "` while it is running"
  | .partRestarted name time => "restarting part `" ++ name ++ "` at " ++ int time ++ " ms"
  | .renameReplaced name new =>
    "renaming `" ++ name ++ "` to `" ++ new ++ "` replaced an existing part"
  | .partFailed name why => "part `" ++ name ++ "` failed to render: " ++ why
  | .effectAdded kind id start stop =>
    "added " ++ kind ++ " effect EffectId(" ++ nat id ++ ") for [" ++ int start ++ ", " ++
      int stop ++ ") ms"
  | .effectsPruned count time =>
    "pruned " ++ nat count ++ " expired effect(s) at " ++ int time ++ " ms"
  | .scriptLoaded => "script loaded; clock reset"
  | .scriptRestarted time => "script restarted at " ++ int time ++ " ms"
  | .dispatched time c => int time ++ " ms: dispatched `" ++ c.text ++ "`"
  | .endReached time line => int time ++ " ms: END reached on line " ++ nat line
  | .commandFailed c why =>
    "line " ++ nat c.line ++ ": `" ++ c.text ++ "` failed: " ++ why.message
  | .textureLoaded path width height =>
    "loaded texture " ++ path.text ++ " (" ++ nat width ++ "x" ++ nat height ++ ")"
  | .shaderLoaded stage path => "loaded " ++ stage.text ++ " shader " ++ path.text
  | .frameRendered index time commands parts effects =>
    "frame " ++ nat index ++ " at " ++ int time ++ " ms: " ++ nat commands ++ " command(s), " ++
      nat parts ++ " part(s), " ++ nat effects ++ " effect(s)"
  | .capturing dir => "capturing frames to " ++ dir.text
  | .scriptExhausted frames =>
    "script exhausted without END after " ++ nat frames ++ " frame(s)"
  | .playbackStopped frames => "playback stopped after " ++ nat frames ++ " frame(s)"
  | .workingDirLost dir why =>
    "failed to restore working directory " ++ dir.text ++ ": " ++ why.message
  | .unknownControl text => "unknown control `" ++ text ++ "` (use p, q, +ms, -ms)"
  | .controlApplied c now => c.text ++ " -> " ++ int now ++ " ms"
  | .controlFailed c why => c.text ++ " failed: " ++ why.message
  | .controlInputFailed why => "control input failed: " ++ why.message
  | .controlsIgnored => "--controls is ignored in capture mode"

/-- The entry as a line of text. -/
def line (e : Event) : String := e.level.text ++ ": " ++ e.message

end Event

/-- Events in the order in which they happened. -/
abbrev Journal := Array Event

end DemoReel
