import DemoReel.Text.Lines
import DemoReel.Clock
import DemoReel.Canvas.Basic
import DemoReel.Image.Files
import DemoReel.Part.Scene
import DemoReel.Part.Registry
import DemoReel.Effect.Timeline
import DemoReel.Effect.Loading
import DemoReel.Playback.Scheduler
import DemoReel.Playback.Console
import DemoReel.Playback.Player
import DemoReel.Graphics.Recorder
import DemoReel.Graphics.Rehearsal
import DemoReel.Xml.Document
import DemoReel.Manifest.Reading
import DemoReel.Manifest.Json
import DemoReel.Proofs.Script.Queue
import DemoReel.Proofs.Playback.Course
import DemoReel.Proofs.Playback.Session
import DemoReel.Proofs.Part.Aspect
import DemoReel.Proofs.Graphics.Loads
import DemoReel.Proofs.Playback.Reach
import DemoReel.Proofs.Playback.Twins
import DemoReel.Proofs.Playback.Pace
import DemoReel.Proofs.Playback.Replay
import DemoReel.Proofs.Text.ByteOrder
import DemoReel.Proofs.Graphics.Record
import DemoReel.Proofs.Part.Turns
import DemoReel.Proofs.Playback.Frame
import DemoReel.Proofs.Playback.Remaining
import DemoReel.Proofs.Playback.Standard
import DemoReel.Proofs.Playback.Run
import DemoReel.Proofs.Playback.Capture
import DemoReel.Proofs.Playback.Outcome
import DemoReel.Proofs.Playback.Blind
import DemoReel.Proofs.Effect.Pruning
import DemoReel.Proofs.Playback.Pruning
import DemoReel.Proofs.Part.Since
import DemoReel.Proofs.Playback.Live
import DemoReel.Proofs.Part.Change
import DemoReel.Proofs.Part.Career
import DemoReel.Proofs.Playback.Rewind
import DemoReel.Proofs.Script.Unreadable
import DemoReel.Proofs.Playback.Unreadable
import DemoReel.Proofs.Playback.Reopening
import DemoReel.Proofs.Clock.Stopwatch
import DemoReel.Proofs.Playback.Offline
import DemoReel.Proofs.Part.Custody
import DemoReel.Proofs.Disk.Walk
import DemoReel.Proofs.Disk.Stays
import DemoReel.Proofs.Playback.Assets
import DemoReel.Proofs.Effect.Fetching
import DemoReel.Proofs.Playback.Feasible
import DemoReel.Proofs.Script.Listing
import DemoReel.Proofs.Playback.Retry
import DemoReel.Proofs.Canvas.Calls
import DemoReel.Proofs.Playback.Offscreen
import DemoReel.Proofs.Effect.Colors
import DemoReel.Proofs.Canvas.Handles
import DemoReel.Proofs.Effect.Limits
import DemoReel.Proofs.Playback.Numbering
import DemoReel.Proofs.Fallible
import DemoReel.Proofs.Manifest.Enrolling
import DemoReel.Proofs.Script.LineNumbers
import DemoReel.Proofs.Playback.Exits
import DemoReel.Proofs.Playback.Limit
import DemoReel.Proofs.Manifest.Addressing
import DemoReel.Proofs.Script.Timestamps
import DemoReel.Proofs.Script.Groups
import DemoReel.Proofs.Number.Numeral
import DemoReel.Proofs.Text.Scanners
import DemoReel.Proofs.Json.Lexemes
import DemoReel.Proofs.Json.Strings
import DemoReel.Proofs.Json.Values
import DemoReel.Proofs.Manifest.RoundTrip
import DemoReel.CommandLine.Program
import DemoReel.Main
import DemoReel.Proofs.CommandLine.Status
import DemoReel.CommandLine.Request
