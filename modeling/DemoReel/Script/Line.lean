import DemoReel.Script.Command
import DemoReel.Script.Literal
import DemoReel.Script.Token

/-!
# Script lines

A line is `<time> <keyword> <arguments>`; a semicolon starts a comment. A line that is not
well-formed is told apart from one that says nothing, so that only the former is reported.
-/

namespace DemoReel.Script

/-- Why a line is not a command. -/
inductive LineFault where
  | noTimestamp
  | noKeyword
  | unknownKeyword
  | argumentsAfterEnd
  deriving DecidableEq, Repr

def LineFault.message : LineFault → String
  | .noTimestamp => "no recognizable timestamp"
  | .noKeyword => "missing command keyword"
  | .unknownKeyword => "unknown command keyword"
  | .argumentsAfterEnd => "END takes no arguments"

/-- What a line says. -/
inductive Line where
  /-- Nothing, or only a comment. -/
  | blank
  | malformed (why : LineFault)
  | command (c : Command)
  deriving DecidableEq, Repr

/-- The line without its comment. -/
def uncommented (cs : List Char) : List Char := cs.takeWhile (· != ';')

/-- What the tokens of line number `line` say. -/
def Line.ofTokens (line : Nat) : List String → Line
  | [] => .blank
  | stamp :: rest =>
    match timestamp? stamp with
    | none => .malformed .noTimestamp
    | some due =>
      match rest with
      | [] => .malformed .noKeyword
      | word :: args =>
        match Keyword.ofText? word with
        | none => .malformed .unknownKeyword
        | some keyword =>
          if keyword = .finish ∧ args ≠ [] then .malformed .argumentsAfterEnd
          else .command { due, keyword, args, line }

/-- What the text of line number `line` says. -/
def Line.parse (line : Nat) (raw : String) : Line :=
  .ofTokens line ((tokens (uncommented raw.toList)).map String.ofList)

/-- No command is due before the start. -/
theorem Line.due_nonneg {line : Nat} {raw : String} {c : Command}
    (h : Line.parse line raw = .command c) : 0 ≤ c.due := by
  unfold parse ofTokens at h
  split at h
  · cases h
  · split at h
    · cases h
    · next due hdue =>
      split at h
      · cases h
      · split at h
        · cases h
        · split at h
          · cases h
          · cases h
            exact timestamp?_nonneg hdue

end DemoReel.Script
