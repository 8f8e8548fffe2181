import AttributeRules.Proofs.FileEffects
import AttributeRules.Proofs.JsonText

/-! Responses and failures.

In JSON mode a command that succeeds answers with a response on one line, but for four commands on the configuration,
which answer with a plain line in each mode (`Program.output_of_success`). A command that fails has printed nothing
before: its error is a response on one line, or one or two lines on the standard error, behind what the filter lets
through of the log (`Program.output_of_failure`). -/

namespace AttributeRules

theorem unlines_singleton (line : String) : unlines [line] = line ++ "\n" := by
  simp [unlines]

/-! ### Responses -/

/-- The text is one line that holds a response with some result and nothing else. -/
def Rpc.IsSuccess (s : String) : Prop :=
  ∃ result : Json, Json.IsLineOf (.object [("jsonrpc", .text "2.0"), ("result", result), ("id", .null)]) s

theorem Rpc.not_isSuccess_of_head {line : String} {c : Char} (hhead : line.toList.head? = some c)
    (hspace : Json.isSpace c = false) (hbrace : c ≠ '{') : ¬Rpc.IsSuccess (line ++ "\n") := by
  rintro ⟨result, text, heq, -, hread⟩
  have htext : line = text := by
    simpa using heq
  subst htext
  exact hbrace (Json.head?_of_ofText?_object hhead hspace hread)

/-- Of the commands that answer with a plain line in JSON mode, only the one that shows a path, whose line can be any
text, can answer with a response. -/
theorem Command.eq_path_of_isSuccess {path? : Option Path} {command : Command} {text : String}
    (htext : command.plainText? path? = some text) (h : Rpc.IsSuccess (text ++ "\n")) : command = .config .path := by
  have hcapital {c : Char} (hhead : text.toList.head? = some c) (hspace : Json.isSpace c = false) (hbrace : c ≠ '{') :
      command = .config .path := absurd h (Rpc.not_isSuccess_of_head hhead hspace hbrace)
  cases command with
  | config command =>
    cases command with
    | path => rfl
    | set key value =>
      cases htext
      exact hcapital (c := 'S') (by simp) (by decide) (by decide)
    | remove name =>
      cases htext
      exact hcapital (c := 'R') (by simp) (by decide) (by decide)
    | reset =>
      cases htext
      exact hcapital (c := 'C') (by simp) (by decide) (by decide)
    | _ => cases htext
  | _ => cases htext

namespace Program
variable {lib : Libraries} {env : Environment} {terminal : Bool} {fs : FileSystem} {args : List String} {i : Invocation}

/-- A command that is no request for a script and succeeds in JSON mode leaves one response on the standard output, on a
line of its own; but a command that only changes the configuration, or shows its path, leaves a plain line there, which
is a response only if it is a path that is spelled like one. -/
theorem output_of_success (hargs : Request.ofArguments args = .ok (.run i))
    (hcompletions : ∀ shell, i.command ≠ .completions shell) (hmode : i.options.outputMode terminal = .json)
    (hexit : (run lib env terminal fs args).1.exitCode = 0) :
    let stdout := (run lib env terminal fs args).1.stdout
    match i.command.plainText? (env.configPathFor i.options) with
    | none => Rpc.IsSuccess stdout
    | some text => stdout = text ++ "\n" ∧ (Rpc.IsSuccess stdout → i.command = .config .path) := by
  intro stdout
  have hanswers : Command.Answers lib (env.configPathFor i.options) i.command stdout := by
    have hends := Command.ends_execute lib (i.options.outputMode terminal) (env.configPathFor i.options) fs i.command
    rw [run_of_ofArguments hargs, Invocation.exitCode_run] at hexit
    have hstdout : stdout =
        (i.command.run lib (i.options.outputMode terminal) (env.configPathFor i.options) fs).stdout := by
      show (run lib env terminal fs args).1.stdout = _
      rw [run_of_ofArguments hargs]
      rfl
    generalize hexecute : i.command.execute lib (i.options.outputMode terminal) (env.configPathFor i.options)
      { files := fs } = ended at hends hexit
    cases hends with
    | succeeded _ hanswer =>
      rw [hstdout, Command.run_of_ok hexecute]
      exact hanswer hmode
    | failed _ => exact absurd hexit (CommandError.exitCode_ne_zero _)
    | flawed _ _ _ _ hcode _ => exact absurd hexit hcode
  clear_value stdout
  generalize i.command = command at hanswers hcompletions ⊢
  cases hanswers with
  | response hplain data =>
    rw [hplain]
    exact ⟨data, Json.isLineOf_toLine _⟩
  | line hplain =>
    rw [hplain, unlines_singleton]
    exact ⟨rfl, Command.eq_path_of_isSuccess hplain⟩
  | script shell => exact absurd rfl (hcompletions shell)

/-- A rule with a quote, a backslash and a line break is shown with its output redirected. -/
theorem output_of_parse_escaped :
    let output := (run .plain { home := "home" } false ⟨[]⟩ ["parse", "a =\n\"\\"]).1
    output.exitCode = 0 ∧ Rpc.IsSuccess output.stdout := by
  intro output
  have hargs : Request.ofArguments ["parse", "a =\n\"\\"] = .ok (.run ⟨{}, .parse "a =\n\"\\"⟩) := by
    decide +kernel
  have hexit : output.exitCode = 0 := by
    decide +kernel
  exact ⟨hexit, output_of_success hargs (fun shell h => nomatch h) rfl hexit⟩

/-- A rule is stored in JSON mode, and the answer is a plain line. -/
theorem set_rule_plain_line :
    let args := ["--json", "config", "set", "rules.adult", "age > 17"]
    let output := (run .plain { home := "home" } true ⟨[]⟩ args).1
    (∃ i, Request.ofArguments args = .ok (.run i) ∧ (∀ shell, i.command ≠ .completions shell) ∧
      i.options.outputMode true = .json) ∧
      output.exitCode = 0 ∧ output.stdout = "Set rules.adult = age > 17\n" ∧ ¬Rpc.IsSuccess output.stdout := by
  intro args output
  have hargs : Request.ofArguments args =
      .ok (.run ⟨{ json := true }, .config (.set "rules.adult" "age > 17")⟩) := by
    decide +kernel
  have hstdout : output.stdout = "Set rules.adult = age > 17" ++ "\n" := by
    decide +kernel
  refine ⟨⟨_, hargs, (fun shell h => nomatch h), rfl⟩, by decide +kernel, hstdout, ?_⟩
  rw [hstdout]
  exact Rpc.not_isSuccess_of_head (c := 'S') (by decide) (by decide) (by decide)

end Program

/-! ### What stands on the standard error -/

section StandardError
variable (lib : Libraries) (env : Environment) (verbose : Bool)

/-- The line in front of all else on the standard error: a warning if the environment asks for a filter of the log that
is none. A verbose command does not look at what it asks for. -/
def Libraries.filterLine : String :=
  let asked := LogFilter.directive false env.logFilter
  if verbose = true ∨ lib.isFilter asked = true then ""
  else "warning: invalid RULEKIT_LOG directive '" ++ asked ++ "', using 'warn'\n"

/-- The filter for the log. -/
def Libraries.filterFor : String :=
  let asked := LogFilter.directive false env.logFilter
  if verbose = true then "debug" else if lib.isFilter asked = true then asked else "warn"

theorem LogFilter.warning_eq (asked : String) :
    warning asked = "warning: invalid RULEKIT_LOG directive '" ++ asked ++ "', using 'warn'\n" := by
  show "warning: invalid RULEKIT_LOG directive '" ++ asked ++ "', using '" ++ "warn" ++ "'\n" = _
  simp [String.append_assoc]

variable {lib}

theorem Libraries.chooseFilter_directive (hlib : lib.FiltersByLevel) :
    lib.chooseFilter (LogFilter.directive verbose env.logFilter) =
      (lib.filterLine env verbose, lib.filterFor env verbose) := by
  unfold chooseFilter filterLine filterFor
  cases verbose with
  | true =>
    have hdebug : lib.isFilter (LogFilter.directive true env.logFilter) = true := hlib.isFilter .debug
    rw [if_pos hdebug]
    rfl
  | false =>
    simp only [Bool.false_eq_true, false_or, if_false, LogFilter.warning_eq]
    split <;> rfl

theorem unlines_cons (line : String) (lines : List String) :
    unlines (line :: lines) = line ++ "\n" ++ unlines lines := by
  simp [unlines]

/-- Lines behind other parts are written behind them. -/
theorem Libraries.writeParts_lines (lib : Libraries) (filter : String) (lines : List String) (parts : List ErrorPart)
    (n : Nat) :
    lib.writeParts filter n (parts ++ lines.map fun line => .text (line ++ "\n")) =
      lib.writeParts filter n parts ++ unlines lines := by
  have hlines (n : Nat) :
      lib.writeParts filter n (lines.map fun line => .text (line ++ "\n")) = unlines lines := by
    induction lines with
    | nil => rfl
    | cons line lines ih => rw [List.map_cons, writeParts, ih, unlines_cons]
  induction parts generalizing n with
  | nil => rw [List.nil_append, hlines, writeParts, String.empty_append]
  | cons part parts ih =>
    cases part with
    | text s => rw [List.cons_append, writeParts, ih, writeParts, String.append_assoc]
    | event e => rw [List.cons_append, writeParts, ih, writeParts, String.append_assoc]

/-- Nothing that is logged is written under the filter that is used where none is asked for. -/
theorem Libraries.writeParts_events (hlib : lib.FiltersByLevel) (events : List LogEvent) (n : Nat) :
    lib.writeParts "warn" n (events.map .event) = "" := by
  induction events generalizing n with
  | nil => rfl
  | cons e events ih =>
    have hlevel : LogLevel.warn.rank < e.level.rank := e.warn_lt_level
    have hsilent : lib.logText "warn" n e = "" := hlib.silent hlevel n
    rw [List.map_cons, writeParts, hsilent, ih, String.empty_append]

theorem Invocation.output_eq {i : Invocation} {terminal : Bool} {fs : FileSystem} (hlib : lib.FiltersByLevel) :
    (i.run lib env terminal fs).1 =
      let ended := i.command.run lib (i.options.outputMode terminal) (env.configPathFor i.options) fs
      { stdout := ended.stdout
        stderr := lib.filterLine env i.options.verbose ++
          lib.writeParts (lib.filterFor env i.options.verbose) 0 ended.stderr
        exitCode := ended.exitCode } := by
  rw [run, Libraries.chooseFilter_directive env i.options.verbose hlib]

end StandardError

/-! ### Failures -/

/-- The exit codes of failures, each with the name of the kind that belongs to it. -/
def kindNames : List (Nat × String) :=
  [(1, "error"), (2, "format"), (3, "unknown_operator"), (4, "invalid_operator"), (5, "missing_attribute"),
    (6, "type_mismatch"), (7, "recursion_limit"), (8, "invalid_args"), (9, "config"), (10, "rule_not_found")]

theorem ErrorKind.lookup_exitCode (k : ErrorKind) : kindNames.lookup k.exitCode = some k.name := by
  cases k <;> rfl

/-- An error outside JSON mode is a line with its message, and one with the suggestions if there are any. -/
theorem Failure.unlines_lines (f : Failure) :
    unlines f.lines = "error: " ++ f.message ++ "\n" ++
      if f.suggestions = [] then "" else "did you mean: " ++ String.intercalate ", " f.suggestions ++ "?\n" := by
  obtain ⟨kind, message, suggestions⟩ := f
  cases suggestions with
  | nil => simp [lines, unlines]
  | cons name names =>
    show unlines ["error: " ++ message, "did you mean: " ++ String.intercalate ", " (name :: names) ++ "?"] = _
    simp [unlines, String.append_assoc]

/-- The text is one line that holds a response with the error and nothing else. Suggestions are left out if there are
none. -/
def Rpc.IsError (code : Int) (message kind : String) (suggestions : List String) (s : String) : Prop :=
  Json.IsLineOf (.object [("jsonrpc", .text "2.0"),
    ("error", .object [("code", .integer code), ("message", .text message),
      ("data", .object (("kind", .text kind) ::
        if suggestions = [] then [] else [("suggestions", .array (suggestions.map .text))]))]),
    ("id", .null)]) s

theorem Rpc.isError_ofFailure (f : Failure) :
    Rpc.IsError (-32000 - f.exitCode) f.message f.kind.name f.suggestions (Rpc.ofFailure f).toLine := by
  obtain ⟨kind, message, suggestions⟩ := f
  cases suggestions <;> exact Json.isLineOf_toLine _

namespace Program
variable {lib : Libraries} {env : Environment} {terminal : Bool} {fs : FileSystem} {args : List String} {i : Invocation}

/-- A run without success has failed with an error, unless it has verified a configuration and found flaws in it. -/
theorem exists_error_of_failure (hargs : Request.ofArguments args = .ok (.run i))
    (hexit : (run lib env terminal fs args).1.exitCode ≠ 0)
    (hverify : i.command = .config .verify → ∀ path problems, env.configPathFor i.options = some path →
      Config.verifyFile fs path = .ok problems → problems = []) :
    ∃ e events after, i.command.execute lib (i.options.outputMode terminal) (env.configPathFor i.options)
      { files := fs } = .error (.failed e) (Trace.log { files := after } events) := by
  have hends := Command.ends_execute lib (i.options.outputMode terminal) (env.configPathFor i.options) fs i.command
  rw [run_of_ofArguments hargs, Invocation.exitCode_run] at hexit
  generalize i.command.execute lib (i.options.outputMode terminal) (env.configPathFor i.options) { files := fs } =
    ended at hends hexit ⊢
  cases hends with
  | succeeded => exact absurd rfl hexit
  | failed _ => exact ⟨_, _, _, rfl⟩
  | flawed hcommand hpath hproblems hne _ _ => exact absurd (hverify hcommand _ _ hpath hproblems) hne

/-- A command that does not succeed, other than by flaws in a configuration that it verifies, has failed with one error,
which gives the exit code. In JSON mode all that it leaves is one response on the standard output, on a line of its own;
in the other modes the standard output is empty, and the message stands on the standard error, with a further line if
there are suggestions. In front of that, the standard error has a warning about a filter that is none, and what the
filter lets through of what was logged until then, which is nothing for the filter that is used by default. -/
theorem output_of_failure (hlib : lib.FiltersByLevel) (hargs : Request.ofArguments args = .ok (.run i))
    (hexit : (run lib env terminal fs args).1.exitCode ≠ 0)
    (hverify : i.command = .config .verify → ∀ path problems, env.configPathFor i.options = some path →
      Config.verifyFile fs path = .ok problems → problems = []) :
    ∃ (e : CommandError) (events : List LogEvent) (after : FileSystem) (kind : String),
      i.command.execute lib (i.options.outputMode terminal) (env.configPathFor i.options) { files := fs } =
        .error (.failed e) (Trace.log { files := after } events) ∧
      let output := (run lib env terminal fs args).1
      let message := e.message lib
      let suggestions := e.suggestions
      let filter := lib.filterFor env i.options.verbose
      let log := lib.writeParts filter 0 (events.map .event)
      output.exitCode = e.kind.exitCode ∧ kindNames.lookup output.exitCode = some kind ∧ (filter = "warn" → log = "") ∧
        match i.options.outputMode terminal with
        | .json =>
          Rpc.IsError (-32000 - output.exitCode) message kind suggestions output.stdout ∧
            output.stderr = lib.filterLine env i.options.verbose ++ log
        | .text | .quiet =>
          output.stdout = "" ∧ output.stderr = lib.filterLine env i.options.verbose ++ log ++
            ("error: " ++ message ++ "\n" ++
              if suggestions = [] then "" else "did you mean: " ++ String.intercalate ", " suggestions ++ "?\n") := by
  obtain ⟨e, events, after, hexecute⟩ := exists_error_of_failure hargs hexit hverify
  refine ⟨e, events, after, e.kind.name, hexecute, ?_⟩
  intro output message suggestions filter log
  have houtput : output = _ := (congrArg Prod.fst (run_of_ofArguments hargs)).trans (Invocation.output_eq env hlib)
  rw [Command.run_of_failed hexecute] at houtput
  have hcode : output.exitCode = e.kind.exitCode := by rw [houtput]
  have hsilent : filter = "warn" → log = "" := by
    intro hfilter
    show lib.writeParts filter 0 _ = ""
    rw [hfilter]
    exact Libraries.writeParts_events hlib events 0
  have hstdout : "" ++ (Rpc.ofFailure (e.toFailure lib)).toLine = (Rpc.ofFailure (e.toFailure lib)).toLine :=
    String.empty_append
  -- Outside JSON mode the error stands in lines behind what was logged.
  have hstderr : lib.filterLine env i.options.verbose ++
      lib.writeParts filter 0 (events.map .event ++ (e.toFailure lib).lines.map fun line => .text (line ++ "\n")) =
        lib.filterLine env i.options.verbose ++ log ++ ("error: " ++ message ++ "\n" ++
          if suggestions = [] then "" else "did you mean: " ++ String.intercalate ", " suggestions ++ "?\n") := by
    rw [lib.writeParts_lines, Failure.unlines_lines, ← String.append_assoc]
    rfl
  refine ⟨hcode, hcode ▸ ErrorKind.lookup_exitCode _, hsilent, ?_⟩
  rw [hcode, houtput]
  cases i.options.outputMode terminal with
  | json =>
    have hresponse := Rpc.isError_ofFailure (e.toFailure lib)
    rw [← hstdout] at hresponse
    exact ⟨hresponse, rfl⟩
  | text => exact ⟨rfl, hstderr⟩
  | quiet => exact ⟨rfl, hstderr⟩

/-- A rule that is not stored is removed, on a terminal and with the output redirected. -/
theorem output_of_remove_unknown :
    let fs : FileSystem := ⟨[(["c.json"], .file "\x7brules: \x7badult: 'age > 17'\x7d\x7d")]⟩
    let args := ["--config", "c.json", "config", "remove", "adlut"]
    let message := "rule 'adlut' is not defined in the config"
    let shown := (run .plain { home := "home" } true fs args).1
    let redirected := (run .plain { home := "home" } false fs args).1
    shown.exitCode = 10 ∧ redirected.exitCode = 10 ∧
      (shown.stdout = "" ∧ shown.stderr = "error: " ++ message ++ "\n" ++ "did you mean: adult?\n") ∧
      Rpc.IsError (-32010) message "rule_not_found" ["adult"] redirected.stdout ∧ redirected.stderr = "" := by
  intro fs args message shown redirected
  have hargs : Request.ofArguments args = .ok (.run ⟨{ configPath := some "c.json" }, .config (.remove "adlut")⟩) := by
    decide +kernel
  have hunknown : (ConfigCommand.toSave fs (some "c.json") (.remove "adlut")).outcome =
      .error (.unknownRule ⟨"adlut", ["adult"]⟩) := by
    decide +kernel
  have hcodes : shown.exitCode = 10 ∧ redirected.exitCode = 10 := by
    decide +kernel
  have hfailed : shown.exitCode ≠ 0 ∧ redirected.exitCode ≠ 0 := by
    omega
  have hfilter : Libraries.filterLine .plain { home := "home" } false = "" ∧
      Libraries.filterFor .plain { home := "home" } false = "warn" := by
    decide +kernel
  obtain ⟨e, events, after, kind, hexecute, -, -, hlog, hstdout, hstderr⟩ :=
    output_of_failure Libraries.plain_filtersByLevel hargs hfailed.1 (fun h => nomatch h)
  obtain ⟨e', events', after', kind', hexecute', -, hkind, hlog', hresponse, hnone⟩ :=
    output_of_failure Libraries.plain_filtersByLevel hargs hfailed.2 (fun h => nomatch h)
  have hfails (mode : OutputMode) : Command.Fails .plain mode (some "c.json") fs (.config (.remove "adlut"))
      (.unknownRule ⟨"adlut", ["adult"]⟩) := Command.fails_of_toSave (.remove "adlut") rfl hunknown
  obtain rfl := (hfails .text).eq hexecute
  obtain rfl := (hfails .json).eq hexecute'
  have hmessage : CommandError.message .plain (.unknownRule ⟨"adlut", ["adult"]⟩) = message := by
    decide +kernel
  rw [hlog hfilter.2, hfilter.1, hmessage] at hstderr
  rw [hlog' hfilter.2, hfilter.1] at hnone
  rw [hcodes.2] at hkind hresponse
  rw [hmessage] at hresponse
  cases hkind
  exact ⟨hcodes.1, hcodes.2, ⟨hstdout, hstderr⟩, hresponse, hnone⟩

/-- A filter of the log that is none has a line on the standard error, in front of the error; and a verbose command has
lines there for what was logged. -/
theorem output_of_failure_invalid_filter :
    let args := ["--no-json", "eval", "a = 1"]
    let output := (run .plain { home := "home", logFilter := some "[" } true ⟨[]⟩ args).1
    let verbose := (run .plain { home := "home" } true ⟨[]⟩ ("--verbose" :: args)).1
    (∃ i, Request.ofArguments args = .ok (.run i) ∧ i.options.outputMode true = .text ∧ i.command ≠ .config .verify) ∧
      (output.exitCode = 8 ∧
        output.stderr = "warning: invalid RULEKIT_LOG directive '[', using 'warn'\n" ++
          "error: an evaluation context is required (--context or --context-file)\n" ∧
        ∀ rest, output.stderr ≠ "error: " ++ rest) ∧
      verbose.exitCode = 8 ∧ ∀ rest, verbose.stderr ≠ "error: " ++ rest := by
  intro args output verbose
  have hargs : Request.ofArguments args = .ok (.run ⟨{ noJson := true }, .eval "a = 1" .absent⟩) := by
    decide +kernel
  have hstderr : output.stderr = "warning: invalid RULEKIT_LOG directive '[', using 'warn'\n" ++
      "error: an evaluation context is required (--context or --context-file)\n" := by
    decide +kernel
  have hverbose : verbose.stderr = "debug rulekit::config: config file not found, using defaults\n" ++
      "error: an evaluation context is required (--context or --context-file)\n" := by
    decide +kernel
  refine ⟨⟨_, hargs, rfl, by decide⟩, ⟨by decide +kernel, hstderr, fun rest hrest => ?_⟩, by decide +kernel,
    fun rest hrest => ?_⟩
  · have hhead := congrArg (·.toList.head?) (hstderr.symm.trans hrest)
    simp at hhead
  · have hhead := congrArg (·.toList.head?) (hverbose.symm.trans hrest)
    simp at hhead

end Program
end AttributeRules
