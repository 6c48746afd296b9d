import DemoReel.CommandLine.Program
import DemoReel.CommandLine.Request
import DemoReel.Image.Files
import DemoReel.Playback.Console
import DemoReel.Xml.Document

/-!
# The executable

Reads the files that a call needs, plays, and writes the files that playing has made. Everything
that is decided is decided in `CommandLine` and `Playback`.
-/

namespace DemoReel.Executable

open CommandLine

/-- The name that help and version go by. -/
def programName : String := "demoreel"

/-- The locations on the way to one, without the root. -/
def ancestors (l : Location) : List Location :=
  (List.range l.length).map fun n => l.take (n + 1)

/-- The absolute location of a path seen from a directory. -/
def locate (workingDir : Location) (p : Path) : Location :=
  p.moves.foldl (fun l m => match m with
    | .stay => l
    | .up => l.dropLast
    | .into n => l ++ [n]) (if p.isAbsolute then [] else workingDir)

/-- Copies what stands at a location, if anything does. -/
def copyEntry (d : Disk) (l : Location) : IO Disk := do
  let name := (Path.ofLocation l).text
  try
    let real ← IO.FS.realPath name
    if ← real.isDir then return d.put l .directory
    else return d.put l (.file (← IO.FS.readBinFile name))
  catch _ => return d

/-- Copies what stands at a path and the directories on the way to it. -/
def copyPath (d : Disk) (p : Path) : IO Disk :=
  (ancestors (locate d.workingDir p)).foldlM copyEntry d

/-- The part of the file system that a call needs. -/
def copyFor (args : List String) : IO Disk := do
  let here : Path := ⟨(← IO.currentDir).toString⟩
  let d : Disk := { workingDir := locate [] here }
  let d ← copyPath d here
  match standard programName args with
  | .ok o =>
    let named := o.script :: (o.manifest.toList ++ o.capture.toList)
    let d ← named.foldlM copyPath d
    match d.canonicalize o.script with
    | .error _ => return d
    | .ok script =>
      match d.read script with
      | .error _ => return d
      | .ok content => (filesOfScript script content).foldlM copyPath d
  | _ => return d

/-- Writes one file or directory. -/
def writeEntry (l : Location) (e : Entry) : IO Unit :=
  let name := (Path.ofLocation l).text
  match e with
  | .directory => IO.FS.createDirAll name
  | .file content => IO.FS.writeBinFile name content

/-- Writes what was put on a disk since it looked like `before`; new entries come first in the
list. -/
def writeNew (before after : Disk) : IO Unit :=
  (after.entries.reverse.filter fun (l, e) => match e, before.lookup l with
    | .directory, some _ => false
    | .directory, none => true
    | .file new, some (.file old) => new != old
    | .file _, _ => true).forM fun (l, e) => writeEntry l e

/-- The lines that were typed since the last look. -/
abbrev Inbox := IO.Ref (Array String)

/-- Collects lines until the input ends. -/
partial def listen (inbox : Inbox) : IO Unit := do
  let line ← (← IO.getStdin).getLine
  if line.isEmpty then pure ()
  else
    inbox.modify (·.push line)
    listen inbox

/-- What the source of the clock reads. -/
def readClock : IO Int64 := return .ofNat (← IO.monoMsNow)

/-- Obeys the lines that were typed, and tells whether one of them asks to quit. -/
def obeyTyped (inbox : Inbox) (p : Playback Scene Canvas) : IO (Bool × Playback Scene Canvas) := do
  let lines ← inbox.modifyGet fun lines => (lines, #[])
  let console : Console Scene Canvas := {
    scheduler := p.scheduler, world := p.world, stopped := false }
  let console := console.obeyLines (← readClock) (lines.toList.map some)
  return (console.stopped, { p with scheduler := console.scheduler, world := console.world })

/-- Renders frames by the system's clock, at most one in `interval` milliseconds. -/
partial def playFrames (inbox : Inbox) (interval : Nat) (p : Playback Scene Canvas) :
    IO (Except RunError RunSummary × Playback Scene Canvas) := do
  let (stop, p) ← obeyTyped inbox p
  let started ← IO.monoMsNow
  match p.turn { reading := .ofNat started, stop } with
  | (some outcome, p) => return (outcome, p)
  | (none, p) =>
    IO.sleep (interval - ((← IO.monoMsNow) - started)).toUInt32
    playFrames inbox interval p

/-- Plays live. -/
def playLive (listens : Bool) (fps : Float32) (p : Playback Scene Canvas) :
    IO (Except RunError RunSummary × Playback Scene Canvas) := do
  let inbox : Inbox ← IO.mkRef #[]
  if listens then discard (IO.asTask (listen inbox) .dedicated)
  let p := p.startClock { reading := ← readClock }
  let (outcome, p) ← playFrames inbox (frameTime 1 fps).toNat p
  return (outcome, p.stopClock { reading := ← readClock })

/-- Frame numbers have 64 bits, which bounds the frames of a run. -/
def allFrames : Nat := Number.maxUInt64 + 1

/-- A whole call. -/
def perform (args : List String) (d : Disk) : IO Outcome := do
  match start standard Xml.document? programName args d with
  | .inl outcome => return outcome
  | .inr r =>
    let p := r.playback
    match p.player.mode with
    | .live fps =>
      if isFrameRate fps then
        let (result, p) ← playLive r.listens fps p
        return .ofRun result r.output p
      else return .ofRun (.error (.frameRate fps)) r.output p
    | .capture .. =>
      match p.run allFrames (.still 0) with
      | (some result, p) => return .ofRun result r.output p
      | (none, p) => return .ofRun (.ok (p.summary false)) r.output p

end DemoReel.Executable

open DemoReel DemoReel.Executable in
def main (args : List String) : IO UInt32 := do
  let before ← copyFor args
  let outcome ← perform args before
  writeNew before outcome.disk
  (← IO.getStdout).putStr outcome.output
  let reports := outcome.journal.filter (·.level.rank ≤ Level.error.rank)
  reports.forM fun e => IO.eprintln e.line
  (← IO.getStderr).putStr outcome.errors
  return outcome.status.toUInt32
