import DemoReel.Number.Integer
import DemoReel.Text.Blank

/-!
# Playback controls

What a viewer can ask for while a reel plays, one line at a time.
-/

namespace DemoReel

/-- A request of the viewer. -/
inductive Control where
  | togglePause
  | seekForward (ms : Int64)
  | seekBack (ms : Int64)
  | quit
  deriving DecidableEq, Repr

namespace Control

/-- A signed 64-bit amount of milliseconds; white space around it is ignored. -/
def amount? (cs : List Char) : Option Int64 :=
  (Number.readInt Number.maxInt64 (Text.trim cs)).toOption.map .ofInt

/-- `p` or `pause`, `q` or `quit`, `+` or `-` with an amount. The amount may carry a sign of its
own. -/
def ofLine? (line : String) : Option Control :=
  let cs := Text.trim line.toList
  if cs = ['p'] ∨ cs = "pause".toList then some .togglePause
  else if cs = ['q'] ∨ cs = "quit".toList then some .quit
  else match cs with
    | '+' :: rest => (amount? rest).map .seekForward
    | '-' :: rest => (amount? rest).map .seekBack
    | _ => none

/-- How reports call the request. -/
def text : Control → String
  | .togglePause => "TogglePause"
  | .seekForward ms => "SeekForward(" ++ Number.integerText ms.toInt ++ ")"
  | .seekBack ms => "SeekBack(" ++ Number.integerText ms.toInt ++ ")"
  | .quit => "Quit"

end Control

end DemoReel
