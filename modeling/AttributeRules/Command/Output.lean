import AttributeRules.Command.Steps
import AttributeRules.Rpc

/-! Runs, and what they print.

A run changes files and writes to the two outputs; it may end early. JSON goes to the standard output, one response on
a line of its own; warnings and the log go to the standard error. Quiet mode leaves out what a command reports. -/

namespace AttributeRules

/-! ### Runs -/

/-- A part of what stands on the standard error. -/
inductive ErrorPart
  | text (s : String)
  | event (e : LogEvent)
  deriving DecidableEq, Repr

/-- The files in the course of a run, and what it has written to its outputs. -/
structure Trace where
  files : FileSystem
  stdout : String := ""
  stderr : List ErrorPart := []

/-- A response on a line of its own. -/
def Json.toLine (j : Json) : String := j.toText ++ "\n"

/-- The word for a result. -/
def resultText (b : Bool) : String := if b then "true" else "false"

/-- The lines of a text. -/
def unlines (lines : List String) : String := String.join (lines.map (· ++ "\n"))

/-- The lines of an error outside JSON mode. -/
def Failure.lines (f : Failure) : List String :=
  let names := String.intercalate ", " f.suggestions
  ["error: " ++ f.message] ++ if f.suggestions.isEmpty then [] else [s!"did you mean: {names}?"]

namespace Trace

def log (t : Trace) (events : List LogEvent) : Trace := { t with stderr := t.stderr ++ events.map .event }

def print (t : Trace) (s : String) : Trace := { t with stdout := t.stdout ++ s }

/-- Writes lines to the standard error. -/
def warn (t : Trace) (lines : List String) : Trace :=
  { t with stderr := t.stderr ++ lines.map fun line => .text (line ++ "\n") }

/-- Reports an error: JSON on the standard output, or text on the standard error. -/
def report (t : Trace) (mode : OutputMode) (f : Failure) : Trace :=
  if mode = .json then t.print (Rpc.ofFailure f).toLine else t.warn f.lines

end Trace

/-- Why a run ends early. -/
inductive EarlyEnd
  | failed (e : CommandError)
  /-- The run ends at once with a code, and nothing more is said. -/
  | exited (code : Nat)
  deriving DecidableEq, Repr

/-- A run, or a part of one. What it has written, and the files, stay as they are when it ends early. -/
abbrev Run := EStateM EarlyEnd Trace

namespace Run
variable {α : Type}

/-- A step that only reads, as a part of a run. -/
def ofLogged (x : Logged α) : Run α := fun t =>
  match x.outcome with
  | .ok a => .ok a (t.log x.events)
  | .error e => .error (.failed e) (t.log x.events)

instance : MonadLift Logged Run where
  monadLift := ofLogged

def fail (e : CommandError) : Run α := throw (.failed e)

def exit (code : Nat) : Run α := throw (.exited code)

def files : Run FileSystem := return (← get).files

def print (s : String) : Run Unit := modify (·.print s)

def printLines (lines : List String) : Run Unit := print (unlines lines)

/-- Prints the response of a success. -/
def printJson (data : Json) : Run Unit := print (Rpc.success data).toLine

def warn (lines : List String) : Run Unit := modify (·.warn lines)

def saveConfig (path? : Option Path) (c : Config) : Run Unit := fun t =>
  match Config.locate path? with
  | .error e => .error (.failed (.save e)) t
  | .ok path =>
    match c.save t.files path with
    | (.ok (), files) => .ok () { t with files }
    | (.error e, files) => .error (.failed (.save e)) { t with files }

end Run

/-! ### Reports -/

namespace Command
open Run

variable (mode : OutputMode)

/-- Shows a rule that was read, with the operands that can never be evaluated. -/
def showParsed (rule : Rule) : Run Unit :=
  let warnings := rule.problems.map (·.message)
  match mode with
  | .json =>
    printJson (.object ([("action", .text "parse"), ("rule", .text rule.write), ("depth", .count rule.depth),
      ("operands", .count rule.operands.length), ("ast", rule.toJson)] ++
      if warnings.isEmpty then [] else [("warnings", .texts warnings)]))
  | .text => do
    print rule.draw
    warn (warnings.map ("warning: " ++ ·))
  | .quiet => return ()

def showEvaluated (x : Evaluated) : Run Unit :=
  match mode with
  | .json =>
    printJson (.object [("action", .text "eval"), ("rule", .text x.rule.write), ("result", .bool x.result)])
  | .text => printLines [resultText x.result]
  | .quiet => return ()

def showCombined (x : Combined) : Run Unit :=
  match mode with
  | .json =>
    printJson (.object ([("action", .text "combine"), ("op", x.op.toJson), ("rule", .text x.rule.write),
      ("ast", x.rule.toJson)] ++
      match x.result with
      | some b => [("result", .bool b)]
      | none => []))
  | .text => printLines (x.rule.write :: (x.result.map resultText).toList)
  | .quiet => return ()

def showChecked (names : List String) (x : Checked) : Run Unit :=
  match mode with
  | .json =>
    printJson (.object [("action", .text "check"), ("rules", .texts names), ("op", x.op.toJson),
      ("rule", .text x.rule.write), ("result", .bool x.result)])
  | .text => printLines [resultText x.result]
  | .quiet => return ()

def showConfig (c : Config) : Run Unit :=
  match mode with
  | .json => printJson c.toJson
  | .text => printLines [c.toText]
  | .quiet => return ()

/-- Shows a line, which is plain text in JSON mode as well. -/
def showLine (line : String) : Run Unit := if mode = .quiet then return () else printLines [line]

/-- Shows the flaws of a configuration that was verified. -/
def showVerified (path : Path) (problems : List ConfigProblem) : Run Unit :=
  let errors := problems.map (·.message)
  match mode, errors with
  | .json, _ =>
    printJson (.object [("action", .text "verify"), ("path", .text path), ("valid", .bool errors.isEmpty),
      ("errors", .texts errors)])
  | .text, [] => printLines [s!"✓ Configuration is valid: {path}"]
  | .text, _ =>
    let count := errors.length
    printLines ([s!"✗ Configuration has {count} error(s): {path}", ""] ++ errors.map ("  - " ++ ·))
  | .quiet, _ => return ()

end Command

end AttributeRules
