import AttributeRules.Command.Output

/-! Running commands.

Each command first reads what it needs; three of them then save the configuration; at the end each prints in its own way
what the mode asks for. -/

namespace AttributeRules.Command
open Run

variable (lib : Libraries) (mode : OutputMode) (path? : Option Path)

/-- Ends the verification of a configuration whose flaws were shown. Flaws are an error in each mode, but in JSON mode the
report has told it all, and the run ends at once. -/
def endVerification (problems : List ConfigProblem) : Run Unit :=
  if problems.isEmpty then return ()
  else if mode = .json then exit ErrorKind.config.exitCode
  else fail .invalidConfig

def executeConfig : ConfigCommand → Run Unit
  | .view => do
    let c ← loadConfig (← files) path?
    showConfig mode c
  | .viewDefault => showConfig mode Config.examples
  | .path => do
    let path ← (Config.locate path?).mapError CommandError.locate
    showLine mode path
  | .set key value => do
    let changed ← setEntry (← files) path? key value
    saveConfig path? changed
    showLine mode s!"Set {key} = {value}"
  | .remove name => do
    let left ← removeRule (← files) path? name
    saveConfig path? left
    showLine mode s!"Removed rule '{name}'"
  | .reset => do
    saveConfig path? Config.default
    showLine mode "Configuration reset to defaults"
  | .verify => do
    let path ← (Config.locate path?).mapError CommandError.locate
    let problems ← (Config.verifyFile (← files) path).mapError CommandError.verify
    showVerified mode path problems
    endVerification mode problems

def execute : Command → Run Unit
  | .parse text => do
    let rule ← readRule (← files) path? text
    showParsed mode rule
  | .eval text source => do
    let evaluated ← evaluateRule (← files) path? text source
    showEvaluated mode evaluated
  | .combine left right op source => do
    let combined ← combineRules (← files) path? left right op source
    showCombined mode combined
  | .check names op source => do
    let checked ← checkRules (← files) path? names op source
    showChecked mode names checked
  | .config command => executeConfig mode path? command
  | .completions shell => print (lib.completions shell)

/-- What a run leaves behind. -/
structure Ended extends Trace where
  exitCode : Nat

/-- Runs a command on files, and reports its error if it fails. -/
def run (fs : FileSystem) (command : Command) : Ended :=
  match execute lib mode path? command { files := fs } with
  | .ok () t => ⟨t, 0⟩
  | .error (.failed e) t => ⟨t.report mode (e.toFailure lib), e.kind.exitCode⟩
  | .error (.exited code) t => ⟨t, code⟩

end AttributeRules.Command
