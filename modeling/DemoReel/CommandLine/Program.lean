import DemoReel.Canvas.Basic
import DemoReel.CommandLine.Library
import DemoReel.Manifest.Reading
import DemoReel.Playback.Player

/-!
# The program

Reads the manifest, registers its parts, loads the script and plays it on a canvas. Each kind of
failure has an exit status: 2 stands for a script that ran out before its end, and 1 for everything
else that the program reports. A program that panics has a status of its own.
-/

namespace DemoReel.CommandLine

open Number

/-- Why a script was not played to its end. -/
inductive Failure where
  | manifestUnreadable (path : Path) (why : Fault)
  | manifestInvalid (path : Path) (why : ManifestFault)
  | scriptMissing (path : Path) (why : Fault)
  | enrollment (why : EnrollmentError)
  | scriptUnloadable (why : ScriptError)
  | run (why : RunError)
  deriving DecidableEq, Repr

namespace Failure

/-- The message, and below it those of the causes. -/
def chain : Failure → List String
  | .manifestUnreadable path why => ["failed to read manifest " ++ path.text, why.message]
  | .manifestInvalid path why => ("invalid manifest " ++ path.text) :: why.chain
  | .scriptMissing path why => ["failed to open script " ++ path.text, why.message]
  | .enrollment why => why.chain
  | .scriptUnloadable why => ["failed to load script", why.message, why.fault.message]
  | .run why => why.chain

/-- The exit status of the program. -/
def status : Failure → Nat
  | .run (.exhausted _) => 2
  | _ => 1

end Failure

/-! ## Reports -/

/-- A text whose further lines stand as far to the right as its first. -/
def indented (first further : String) (text : String) : String :=
  first ++ String.intercalate ("\n" ++ further) (text.splitOn "\n")

/-- A number in a column of five. -/
def column (n : Nat) : String :=
  let ds := digits n
  String.ofList (List.replicate (5 - ds.length) ' ' ++ ds)

/-- Causes with their numbers, one below the other. -/
def numbered (n : Nat) : List String → List String
  | [] => []
  | c :: cs => indented (column n ++ ": ") "       " c :: numbered (n + 1) cs

/-- A message with its causes below it; more than one are numbered. -/
def report : List String → String
  | [] => ""
  | [message] => message
  | [message, cause] => message ++ "\n\nCaused by:\n" ++ indented "    " "    " cause
  | message :: causes =>
    message ++ "\n\nCaused by:\n" ++ String.intercalate "\n" (numbered 0 causes)

/-- What is said about a manifest that was read. -/
def manifestSummary (m : Manifest) : String :=
  "Loaded manifest with " ++ String.ofList (digits m.parts.length) ++ " part(s)\n" ++
    String.join (m.parts.map fun p => " - " ++ p.name ++ " (" ++ p.kind.text ++ ")\n")

/-- What is said about a run. -/
def runSummary (s : RunSummary) : String :=
  "Rendered " ++ String.ofList (digits s.frames) ++ " frame(s), last time " ++
    integerText s.lastTime ++ " ms\n"

/-! ## What to read -/

/-- The files that a line of a script may ask for. -/
def filesOfLine (assets : Assets) (line : String) : List Path :=
  match Script.Line.parse 1 line with
  | .command c =>
    match c.keyword, EffectDraft.ofArgs c.args with
    | .effect, .ok draft => draft.files.map assets.resolve
    | _, _ => []
  | _ => []

/-- The files that a script may ask for while it plays. -/
def filesOfScript (script : Path) (content : ByteArray) : List Path :=
  (Text.decodedLines content.toList).flatMap fun line =>
    (line.map (filesOfLine ⟨(Script.Source.file script).baseDir⟩)).getD []

/-! ## Playing -/

section

variable (xml : Xml.Library)

/-- The manifest of a file. -/
def loadManifest (d : Disk) (path : Path) : Except Failure Manifest :=
  match d.readText path with
  | .error why => .error (.manifestUnreadable path why)
  | .ok text => (Manifest.ofXml xml text).mapError (.manifestInvalid path)

/-- The manifest that is asked for, or the one with nothing in it. -/
def manifestFor (o : Options) (d : Disk) : Except Failure Manifest :=
  match o.manifest with
  | none => .ok {}
  | some path => loadManifest xml d path

end

/-- Settings of which the command line has the last word. -/
def settingsFor (o : Options) (s : Settings) : Settings :=
  { s with
    width := o.width.getD s.width
    height := o.height.getD s.height
    fps := o.fps.getD s.fps }

/-- How frames are timed and where they go. -/
def modeFor (o : Options) (fps : Float32) : PlayMode :=
  match o.capture with
  | some dir => .capture dir fps
  | none => .live fps

/-- The parts of a manifest with a script. The script is pinned to an absolute path, because
capturing changes the working directory. There is no backend yet. -/
def load [Image.Library] (o : Options) (m : Manifest) (d : Disk) :
    Except Failure (Scheduler Scene Canvas) × World Unit :=
  let w : World Unit := { gfx := (), disk := d }
  match d.canonicalize o.script with
  | .error why => (.error (.scriptMissing o.script why), w)
  | .ok script =>
    match m.enroll id .empty with
    | (.error why, _, events) => (.error (.enrollment why), w.noteAll events)
    | (.ok _, registry, events) =>
      let scheduler : Scheduler Scene Canvas := {
        table := .standard
        registry
        timeline := { autoPrune := m.settings.pruneEffects } }
      match scheduler.load (.file script) (w.noteAll events) with
      | (.error why, _, w) => (.error (.scriptUnloadable why), w)
      | (.ok (), scheduler, w) => (.ok scheduler, w)

/-- What a call of the program leaves behind. -/
structure Outcome where
  status : Nat
  output : String := ""
  errors : String := ""
  disk : Disk
  journal : Journal := #[]

/-- The status of a program that has panicked. -/
def panicStatus : Nat := 101

/-- A call that has come to its run. -/
structure Ready where
  output : String
  /-- Whether the viewer is listened to. -/
  listens : Bool
  playback : Playback Scene Canvas

namespace Outcome

/-- The outcome of a failure. -/
def ofFailure {σ : Type} (f : Failure) (output : String) (w : World σ) : Outcome where
  status := f.status
  output := output
  errors := "Error: " ++ report f.chain ++ "\n"
  disk := w.disk
  journal := w.journal

/-- The outcome of a panic. -/
def ofPanic {σ : Type} (message output : String) (w : World σ) : Outcome where
  status := panicStatus
  output := output
  errors := message ++ "\n"
  disk := w.disk
  journal := w.journal

/-- The outcome of a run that has ended. -/
def ofRun (result : Except RunError RunSummary) (output : String) (p : Playback Scene Canvas) :
    Outcome :=
  match result with
  | .error e => ofFailure (.run e) output p.world
  | .ok s =>
    { status := 0
      output := output ++ runSummary s
      disk := p.world.disk
      journal := p.world.journal }

end Outcome

/-- What is played, on a canvas of the size that is asked for. The viewer is listened to in live
playback only. -/
def ready (o : Options) (settings : Settings) (output : String)
    (scheduler : Scheduler Scene Canvas) (w : World Unit) : Ready :=
  let player : Player := { mode := modeFor o settings.fps, maxFrames := o.maxFrames }
  let gfx : Canvas := .ofSize settings.width settings.height
  let world : World Canvas := { gfx, disk := w.disk, journal := w.journal }
  if o.controls then
    match player.mode with
    | .live _ => ⟨output, true, player, scheduler, world⟩
    | .capture .. => ⟨output, false, player, scheduler, world.note .controlsIgnored⟩
  else ⟨output, false, player, scheduler, world⟩

section

variable [Image.Library] (cl : Library) (xml : Xml.Library)

/-- A call that comes to no run is over at once. An array of more bytes than can be counted is a
panic, which no failure of the program accounts for. -/
def start (program : String) (args : List String) (d : Disk) : Outcome ⊕ Ready :=
  match cl program args with
  | .error n => .inl { status := n.status, output := n.output, errors := n.errors, disk := d }
  | .ok o =>
    match manifestFor xml o d with
    | .error f => .inl (.ofFailure f "" ({ gfx := (), disk := d } : World Unit))
    | .ok m =>
      let output := manifestSummary m
      let settings := settingsFor o m.settings
      match load o m d with
      | (.error f, w) => .inl (.ofFailure f output w)
      | (.ok scheduler, w) =>
        if Canvas.Fits settings.width settings.height then
          .inr (ready o settings output scheduler w)
        else .inl (.ofPanic "capacity overflow" output w)

/-- A whole call of the program with no more than `fuel` frames; `none` if it takes more. -/
def call (fuel : Nat) (cues : Cues) (program : String) (args : List String)
    (d : Disk) : Option Outcome :=
  match start cl xml program args d with
  | .inl outcome => some outcome
  | .inr r =>
    let (result, p) := r.playback.run fuel (if r.listens then cues else cues.unheard)
    result.map fun result => .ofRun result r.output p

end

end DemoReel.CommandLine
