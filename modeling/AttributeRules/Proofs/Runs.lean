import Mathlib.Data.List.Basic
import AttributeRules.Command.Program

/-! Runs of commands, step by step.

A command first reads what it needs, which may fail and is logged, and touches no file (`Run.ofLogged_bind`). What it
then shows goes to the outputs only, and never fails (`Run.Prints`). So a run can be told by what its reading comes to. -/

namespace AttributeRules

/-! ### Ends -/

/-- The result of a run: what it leaves, whether or not it has ended early. -/
abbrev RunResult := EStateM.Result EarlyEnd Trace Unit

def EarlyEnd.exitCode : EarlyEnd → Nat
  | .failed e => e.kind.exitCode
  | .exited code => code

namespace RunResult

def exitCode : RunResult → Nat
  | .ok _ _ => 0
  | .error stop _ => stop.exitCode

def files : RunResult → FileSystem
  | .ok _ t => t.files
  | .error _ t => t.files

end RunResult

@[simp] theorem Trace.log_nil (t : Trace) : t.log [] = t := by
  simp [log]

@[simp] theorem Trace.files_report (t : Trace) (mode : OutputMode) (f : Failure) :
    (t.report mode f).files = t.files := by
  unfold report
  split <;> rfl

theorem CommandError.exitCode_ne_zero (e : CommandError) : e.kind.exitCode ≠ 0 :=
  Nat.pos_iff_ne_zero.mp (ErrorKind.exitCode_pos _)

namespace Command
variable {lib : Libraries} {mode : OutputMode} {path? : Option Path} {fs : FileSystem} {command : Command}

theorem run_of_ok {t : Trace} (h : execute lib mode path? command { files := fs } = .ok () t) :
    run lib mode path? fs command = ⟨t, 0⟩ := by
  rw [run, h]

theorem run_of_failed {e : CommandError} {t : Trace}
    (h : execute lib mode path? command { files := fs } = .error (.failed e) t) :
    run lib mode path? fs command = ⟨t.report mode (e.toFailure lib), e.kind.exitCode⟩ := by
  rw [run, h]

theorem exitCode_run :
    (run lib mode path? fs command).exitCode =
      RunResult.exitCode (execute lib mode path? command { files := fs }) := by
  unfold run
  rcases execute lib mode path? command { files := fs } with _ | ⟨_ | _, t⟩ <;> rfl

theorem files_run :
    (run lib mode path? fs command).files = RunResult.files (execute lib mode path? command { files := fs }) := by
  unfold run
  rcases execute lib mode path? command { files := fs } with _ | ⟨_ | _, t⟩
  · rfl
  · exact Trace.files_report ..
  · rfl

end Command

namespace Invocation
variable {lib : Libraries} {env : Environment} {terminal : Bool} {fs : FileSystem} {i : Invocation}

theorem exitCode_run :
    (i.run lib env terminal fs).1.exitCode = RunResult.exitCode (i.command.execute lib (i.options.outputMode terminal)
      (env.configPathFor i.options) { files := fs }) :=
  Command.exitCode_run

theorem files_run :
    (i.run lib env terminal fs).2 = RunResult.files (i.command.execute lib (i.options.outputMode terminal)
      (env.configPathFor i.options) { files := fs }) :=
  Command.files_run

end Invocation

/-! ### Steps of a run -/

namespace Run
variable {α β : Type}

theorem bind_apply (x : Run α) (f : α → Run β) (t : Trace) :
    (x >>= f) t =
      match x t with
      | .ok a t => f a t
      | .error stop t => .error stop t := by
  show EStateM.bind x f t = _
  unfold EStateM.bind
  cases x t <;> rfl

/-- A part that only reads goes on with its result or fails, and has changed nothing but the log. -/
theorem ofLogged_bind (x : Logged α) (f : α → Run β) (t : Trace) :
    (ofLogged x >>= f) t =
      match x.outcome with
      | .ok a => f a (t.log x.events)
      | .error e => .error (.failed e) (t.log x.events) := by
  rw [bind_apply, ofLogged]
  cases x.outcome <;> rfl

/-- A run that first reads from the files goes on with what it reads. -/
theorem read_ok {x : FileSystem → Logged α} {a : α} (f : α → Run β) {t : Trace} (h : (x t.files).outcome = .ok a) :
    (do f (← x (← files))) t = f a (t.log (x t.files).events) := by
  show (ofLogged (x t.files) >>= f) t = _
  rw [ofLogged_bind, h]

theorem read_error {x : FileSystem → Logged α} {e : CommandError} (f : α → Run β) {t : Trace}
    (h : (x t.files).outcome = .error e) :
    (do f (← x (← files))) t = .error (.failed e) (t.log (x t.files).events) := by
  show (ofLogged (x t.files) >>= f) t = _
  rw [ofLogged_bind, h]

section Save
variable {path : Path} {after : FileSystem} {c : Config} {t : Trace}

theorem saveConfig_ok (f : Run α) (h : c.save t.files path = (.ok (), after)) :
    (saveConfig (some path) c >>= fun _ => f) t = f { t with files := after } := by
  simp only [bind_apply, saveConfig, Config.locate, h]

theorem saveConfig_error {e : ConfigFileError} (f : Run α) (h : c.save t.files path = (.error e, after)) :
    (saveConfig (some path) c >>= fun _ => f) t = .error (.failed (.save e)) { t with files := after } := by
  simp only [bind_apply, saveConfig, Config.locate, h]

end Save

/-- A part of a run that only writes to the outputs. -/
def Prints (x : Run Unit) : Prop := ∀ t : Trace, ∃ t' : Trace, x t = .ok () t' ∧ t'.files = t.files

theorem prints_pure : Prints (return ()) := fun t => ⟨t, rfl, rfl⟩

theorem prints_print (s : String) : Prints (print s) := fun t => ⟨t.print s, rfl, rfl⟩

theorem prints_printJson (data : Json) : Prints (printJson data) := prints_print _

theorem prints_printLines (lines : List String) : Prints (printLines lines) := prints_print _

theorem prints_warn (lines : List String) : Prints (warn lines) := fun t => ⟨t.warn lines, rfl, rfl⟩

theorem Prints.bind {x y : Run Unit} (hx : Prints x) (hy : Prints y) : Prints (x >>= fun _ => y) := by
  intro t
  obtain ⟨t₁, h₁, hfiles₁⟩ := hx t
  obtain ⟨t₂, h₂, hfiles₂⟩ := hy t₁
  refine ⟨t₂, ?_, hfiles₂.trans hfiles₁⟩
  rw [bind_apply, h₁]
  exact h₂

end Run

/-! ### What is shown -/

namespace Command
open Run

/-- A report with a form for each mode: it is only printed, and in JSON mode it is a response. -/
structure IsReport (report : OutputMode → Run Unit) : Prop where
  prints (mode : OutputMode) : Prints (report mode)
  json : ∃ data, report .json = printJson data

theorem isReport_of_modes {report : OutputMode → Run Unit} {data : Json} (hjson : report .json = printJson data)
    (htext : Prints (report .text)) (hquiet : report .quiet = return ()) : IsReport report where
  prints mode := by
    cases mode with
    | json => exact hjson ▸ prints_printJson data
    | text => exact htext
    | quiet => exact hquiet ▸ prints_pure
  json := ⟨data, hjson⟩

theorem isReport_showParsed (rule : Rule) : IsReport (showParsed · rule) :=
  isReport_of_modes rfl ((prints_print _).bind (prints_warn _)) rfl

theorem isReport_showEvaluated (x : Evaluated) : IsReport (showEvaluated · x) :=
  isReport_of_modes rfl (prints_printLines _) rfl

theorem isReport_showCombined (x : Combined) : IsReport (showCombined · x) :=
  isReport_of_modes rfl (prints_printLines _) rfl

theorem isReport_showChecked (names : List String) (x : Checked) : IsReport (showChecked · names x) :=
  isReport_of_modes rfl (prints_printLines _) rfl

theorem isReport_showConfig (c : Config) : IsReport (showConfig · c) :=
  isReport_of_modes rfl (prints_printLines _) rfl

theorem isReport_showVerified (path : Path) (problems : List ConfigProblem) :
    IsReport (showVerified · path problems) := by
  refine isReport_of_modes rfl ?_ rfl
  cases problems with
  | nil => exact prints_printLines _
  | cons problem rest => exact prints_printLines _

theorem prints_showLine (mode : OutputMode) (line : String) : Prints (showLine mode line) := by
  cases mode with
  | quiet => exact prints_pure
  | _ => exact prints_printLines _

/-! ### What is read, and what comes of it -/

section Reading
variable {lib : Libraries} {mode : OutputMode} {path? : Option Path} {fs : FileSystem} {command : Command}

/-- The command ends with success after it has shown what it has read, and changes no file. -/
structure Shows (lib : Libraries) (mode : OutputMode) (path? : Option Path) (fs : FileSystem) (command : Command)
    (report : Run Unit) : Prop where
  exitCode : (run lib mode path? fs command).exitCode = 0
  files : (run lib mode path? fs command).files = fs
  executes : ∃ events, execute lib mode path? command { files := fs } = report (Trace.log { files := fs } events)

/-- The command fails at what it reads, with the exit code of the error, and changes no file. -/
structure Fails (lib : Libraries) (mode : OutputMode) (path? : Option Path) (fs : FileSystem) (command : Command)
    (e : CommandError) : Prop where
  exitCode : (run lib mode path? fs command).exitCode = e.kind.exitCode
  files : (run lib mode path? fs command).files = fs
  executes : ∃ events,
    execute lib mode path? command { files := fs } = .error (.failed e) (Trace.log { files := fs } events)

theorem IsReport.shows {report : OutputMode → Run Unit} (hreport : IsReport report) (events : List LogEvent)
    (h : execute lib mode path? command { files := fs } = report mode (Trace.log { files := fs } events)) :
    Shows lib mode path? fs command (report mode) := by
  obtain ⟨t, hshown, hfiles⟩ := hreport.prints mode (Trace.log { files := fs } events)
  refine ⟨?_, ?_, events, h⟩
  · rw [exitCode_run, h, hshown]
    rfl
  · rw [files_run, h, hshown]
    exact hfiles

theorem fails_of_execute {e : CommandError} {events : List LogEvent}
    (h : execute lib mode path? command { files := fs } = .error (.failed e) (Trace.log { files := fs } events)) :
    Fails lib mode path? fs command e := by
  refine ⟨?_, ?_, events, h⟩
  · rw [exitCode_run, h]
    rfl
  · rw [files_run, h]
    rfl

theorem Fails.eq {e e' : CommandError} {t : Trace} (h : Fails lib mode path? fs command e)
    (hexecute : execute lib mode path? command { files := fs } = .error (.failed e') t) : e' = e := by
  obtain ⟨events, hfails⟩ := h.executes
  cases hfails.symm.trans hexecute
  rfl

variable {path : Path} {c : Config} {names : List String} {op : Option String} {source : ContextSource}

theorem shows_check {checked : Checked} (h : (checkRules fs path? names op source).outcome = .ok checked) :
    Shows lib mode path? fs (.check names op source) (showChecked mode names checked) :=
  (isReport_showChecked names checked).shows _
    (read_ok (t := { files := fs }) (x := (checkRules · path? names op source)) (showChecked mode names) h)

theorem fails_check {e : CommandError} (h : (checkRules fs path? names op source).outcome = .error e) :
    Fails lib mode path? fs (.check names op source) e :=
  fails_of_execute
    (read_error (t := { files := fs }) (x := (checkRules · path? names op source)) (showChecked mode names) h)

theorem executeConfig_verify (mode : OutputMode) (path : Path) (t : Trace) :
    executeConfig mode (some path) .verify t =
      (ofLogged { outcome := (Config.verifyFile t.files path).mapError .verify } >>= fun problems =>
        showVerified mode path problems >>= fun _ => endVerification mode problems) t := by
  have hlocated : executeConfig mode (some path) .verify t =
      (ofLogged { outcome := (Config.verifyFile t.files path).mapError .verify } >>= fun problems =>
        showVerified mode path problems >>= fun _ => endVerification mode problems) (t.log []) := rfl
  rw [hlocated, Trace.log_nil]

theorem executeConfig_verify_ok {t : Trace} {problems : List ConfigProblem}
    (hverify : Config.verifyFile t.files path = .ok problems) :
    executeConfig mode (some path) .verify t =
      (showVerified mode path problems >>= fun _ => endVerification mode problems) t := by
  rw [executeConfig_verify, ofLogged_bind, hverify]
  dsimp only [Except.mapError]
  rw [Trace.log_nil]

theorem executeConfig_verify_error {t : Trace} {e : VerifyError} (hverify : Config.verifyFile t.files path = .error e) :
    executeConfig mode (some path) .verify t = .error (.failed (.verify e)) t := by
  rw [executeConfig_verify, ofLogged_bind, hverify]
  dsimp only [Except.mapError]
  rw [Trace.log_nil]

theorem outcome_loadConfig : (loadConfig fs (some path)).outcome = (Config.load fs path).mapError .load := by
  rw [loadConfig, Logged.outcome_bind, Logged.outcome_lift, Config.locate]
  show ((liftM ((Config.load fs path).mapError CommandError.load) : Logged Config) >>= _).outcome = _
  rw [Logged.outcome_bind, Logged.outcome_lift]
  cases Config.load fs path <;> rfl

theorem outcome_loadConfig_of_load (hload : Config.load fs path = .ok c) :
    (loadConfig fs (some path)).outcome = .ok c := by
  rw [outcome_loadConfig, hload]
  rfl

end Reading
end Command
end AttributeRules
