import AttributeRules.Proofs.ConfigCommands
import AttributeRules.Proofs.OutputModes

/-! How runs of commands end, and what they do to files.

A save that fails may have made directories, but no file is another one after it; a save that succeeds changes the file
at its path only (`Config.save_files`). All that can fail in a command comes before its save and before it prints
anything, but for the end of a verification that has shown flaws. This is told once for every command
(`Command.ends_execute`). So a run that fails changes no file, and one that succeeds writes at most the configuration
(`Program.files_of_run`). -/

namespace AttributeRules

namespace FileSystem
variable {fs made after all written : FileSystem} {path : Path} {p q : Place} {e : Entry} {content : String}

/-- The content of the file at a place, if a file is there. -/
def file? (fs : FileSystem) (p : Place) : Option String :=
  match fs.get? p with
  | some (.file content) => some content
  | _ => none

/-- The files are the same, whatever directories there are. -/
def SameFiles (fs after : FileSystem) : Prop := ∀ p, after.file? p = fs.file? p

/-- The file at the path has the content, and all other files are the same. -/
def OnlyWrites (fs : FileSystem) (path : Path) (content : String) (after : FileSystem) : Prop :=
  ∃ p, after.resolve path = .ok p ∧ after.file? p = some content ∧ ∀ q, q ≠ p → after.file? q = fs.file? q

theorem sameFiles_refl (fs : FileSystem) : SameFiles fs fs := fun _ => rfl

theorem SameFiles.trans (h₁ : SameFiles fs made) (h₂ : SameFiles made all) : SameFiles fs all :=
  fun p => (h₂ p).trans (h₁ p)

theorem SameFiles.onlyWrites (h₁ : SameFiles fs made) (h₂ : OnlyWrites made path content after) :
    OnlyWrites fs path content after := by
  obtain ⟨p, hresolve, hfile, hothers⟩ := h₂
  exact ⟨p, hresolve, hfile, fun q hq => (hothers q hq).trans (h₁ q)⟩

theorem file?_put_of_ne (h : q ≠ p) : (fs.put p e).file? q = fs.file? q := by
  rw [file?, file?, get?_put_of_ne h]

theorem sameFiles_makeDirectory (h : fs.makeDirectory path = .ok made) : SameFiles fs made := by
  unfold makeDirectory at h
  split at h
  · cases h
  · rename_i p hp
    split at h
    · cases h
    · rename_i hfree
      cases h
      have hnone : fs.get? p = none := by simpa using hfree
      have hanchor : p.isAnchor = false := by
        refine Bool.eq_false_iff.mpr fun hanchor => ?_
        rw [get?, if_pos hanchor] at hnone
        cases hnone
      intro q
      by_cases hq : q = p
      · -- There was nothing, and now there is a directory; neither is a file.
        subst hq
        rw [file?, file?, get?_put_self hanchor, hnone]
      · exact file?_put_of_ne hq

theorem sameFiles_makeParents (fs : FileSystem) (path : Path) : SameFiles fs (fs.makeParents path).2 :=
  makeDirectories_induction sameFiles_refl SameFiles.trans sameFiles_makeDirectory fs _

theorem onlyWrites_write (h : fs.write path content = .ok written) : OnlyWrites fs path content written := by
  obtain ⟨p, hresolve, rfl, hanchor, -⟩ := exists_of_write h
  have hfile : (fs.put p (.file content)).file? p = some content := by
    rw [file?, get?_put_self hanchor]
  exact ⟨p, hresolve, hfile, fun q hq => file?_put_of_ne hq⟩

end FileSystem

open FileSystem Run

/-- A save changes no file, or just the one at its path. -/
theorem Config.save_files (c : Config) (fs : FileSystem) (path : Path) :
    (∃ e after, c.save fs path = (.error e, after) ∧ SameFiles fs after) ∨
      ∃ after, c.save fs path = (.ok (), after) ∧ OnlyWrites fs path c.toText after := by
  have hsame := sameFiles_makeParents fs path
  unfold save
  rcases hmade : fs.makeParents path with ⟨e | ⟨⟩, made⟩
  · rw [hmade] at hsame
    exact .inl ⟨_, made, rfl, hsame⟩
  · rw [hmade] at hsame
    dsimp only
    cases hwrite : made.write path c.toText with
    | error e => exact .inl ⟨_, made, rfl, hsame⟩
    | ok written => exact .inr ⟨written, rfl, hsame.onlyWrites (onlyWrites_write hwrite)⟩

namespace Command

/-! ### How runs end -/

/-- What a command that succeeds has done to the files. -/
def Effect (fs : FileSystem) (path? : Option Path) : Command → FileSystem → Prop
  | .config (.set key value), after =>
    ∃ path c saved, path? = some path ∧ Config.load fs path = .ok c ∧ c.set key value = (.ok (), saved) ∧
      OnlyWrites fs path saved.toText after
  | .config (.remove name), after =>
    ∃ path c text saved, path? = some path ∧ Config.load fs path = .ok c ∧ c.remove name = (.ok text, saved) ∧
      OnlyWrites fs path saved.toText after
  | .config .reset, after => ∃ path, path? = some path ∧ OnlyWrites fs path Config.default.toText after
  | _, after => after = fs

/-- The line that a command answers with in each mode but the quiet one, if it has no JSON for what it reports. -/
def plainText? (path? : Option Path) : Command → Option String
  | .config .path => path?
  | .config (.set key value) => some ("Set " ++ key ++ " = " ++ value)
  | .config (.remove name) => some ("Removed rule '" ++ name ++ "'")
  | .config .reset => some "Configuration reset to defaults"
  | _ => none

/-- What stands on the standard output after a command has succeeded in JSON mode. -/
inductive Answers (lib : Libraries) (path? : Option Path) : Command → String → Prop
  | response {command : Command} (hplain : command.plainText? path? = none) (data : Json) :
      Answers lib path? command (Rpc.success data).toLine
  | line {command : Command} {text : String} (hplain : command.plainText? path? = some text) :
      Answers lib path? command (unlines [text])
  | script (shell : Shell) : Answers lib path? (.completions shell) (lib.completions shell)

/-- How a run of a command on files ends. -/
inductive Ends (lib : Libraries) (mode : OutputMode) (path? : Option Path) (fs : FileSystem) (command : Command) :
    RunResult → Prop
  | succeeded {t : Trace} (heffect : Effect fs path? command t.files)
      (hanswer : mode = .json → Answers lib path? command t.stdout) : Ends lib mode path? fs command (.ok () t)
  /-- It has failed before anything was printed. -/
  | failed {e : CommandError} {after : FileSystem} {events : List LogEvent} (hfiles : SameFiles fs after) :
      Ends lib mode path? fs command (.error (.failed e) (Trace.log { files := after } events))
  /-- Flaws were found in a configuration that was verified, and shown. -/
  | flawed {stop : EarlyEnd} {t : Trace} {path : Path} {problems : List ConfigProblem}
      (hcommand : command = .config .verify) (hpath : path? = some path)
      (hverify : Config.verifyFile fs path = .ok problems) (hproblems : problems ≠ []) (hcode : stop.exitCode ≠ 0)
      (hfiles : t.files = fs) : Ends lib mode path? fs command (.error stop t)

section Ends
variable {lib : Libraries} {mode : OutputMode} {path? : Option Path} {path : Path} {fs after : FileSystem}
  {command : Command}

theorem ends_report {report : OutputMode → Run Unit} (events : List LogEvent) (hreport : IsReport report)
    (heffect : Effect fs path? command fs) (hplain : command.plainText? path? = none) :
    Ends lib mode path? fs command (report mode (Trace.log { files := fs } events)) := by
  obtain ⟨t, hshown, hfiles⟩ := hreport.prints mode (Trace.log { files := fs } events)
  have hkept : Effect fs path? command t.files := hfiles ▸ heffect
  rw [hshown]
  refine .succeeded hkept fun hmode => ?_
  subst hmode
  obtain ⟨data, hdata⟩ := hreport.json
  rw [hdata] at hshown
  cases hshown
  rw [show (Trace.print _ _).stdout = "" ++ _ from rfl, String.empty_append]
  exact .response hplain data

/-- A command that reads something and reports on it leaves the files as they are. -/
theorem ends_read {α : Type} {x : FileSystem → Logged α} {report : OutputMode → α → Run Unit}
    (hreport : ∀ a, IsReport (report · a)) (heffect : Effect fs path? command fs)
    (hplain : command.plainText? path? = none) :
    Ends lib mode path? fs command ((do report mode (← x (← files)) : Run Unit) { files := fs }) := by
  cases hread : (x fs).outcome with
  | error e =>
    rw [read_error (t := { files := fs }) _ hread]
    exact .failed (sameFiles_refl fs)
  | ok a =>
    rw [read_ok (t := { files := fs }) _ hread]
    exact ends_report _ (hreport a) heffect hplain

theorem ends_showLine {line : String} (events : List LogEvent) (heffect : Effect fs path? command after)
    (hplain : command.plainText? path? = some line) :
    Ends lib mode path? fs command (showLine mode line (Trace.log { files := after } events)) := by
  obtain ⟨t, hshown, hfiles⟩ := prints_showLine mode line (Trace.log { files := after } events)
  have hkept : Effect fs path? command t.files := hfiles ▸ heffect
  rw [hshown]
  refine .succeeded hkept fun hmode => ?_
  subst hmode
  cases hshown
  rw [show (Trace.print _ _).stdout = "" ++ _ from rfl, String.empty_append]
  exact .line hplain

/-- What was read to be saved is the configuration that was there, as the command has changed it. -/
theorem effect_of_toSave {command : ConfigCommand} {saved : Config} (hedit : command.isEdit = true)
    (h : (command.toSave fs (some path)).outcome = .ok saved) (hwrites : OnlyWrites fs path saved.toText after) :
    Effect fs (some path) (.config command) after := by
  have hloaded : command = .reset ∨ ∃ c, Config.load fs path = .ok c := by
    cases hload : Config.load fs path with
    | ok c => exact .inr ⟨c, rfl⟩
    | error e =>
      rcases outcome_toSave_of_load_error hload hedit with herror | hreset
      · cases herror.symm.trans h
      · exact .inl hreset
  cases command with
  | set key value =>
    obtain hreset | ⟨c, hload⟩ := hloaded
    · cases hreset
    · have hchange := (outcome_setEntry hload).symm.trans h
      exact ⟨path, c, saved, rfl, hload, (Config.change_eq_ok_iff.mp hchange).1, hwrites⟩
  | remove name =>
    obtain hreset | ⟨c, hload⟩ := hloaded
    · cases hreset
    · have hremove := (outcome_removeRule hload).symm.trans h
      rcases hleft : c.remove name with ⟨u | text, left⟩
      · rw [hleft] at hremove
        cases hremove
      · rw [hleft] at hremove
        cases hremove
        exact ⟨path, c, text, _, rfl, hload, hleft, hwrites⟩
  | reset =>
    cases h
    exact ⟨path, rfl, hwrites⟩
  | _ => cases hedit

theorem plainText?_of_isEdit {command : ConfigCommand} (hedit : command.isEdit = true) :
    plainText? path? (.config command) = some command.doneText := by
  cases command with
  | set key value => rfl
  | remove name => rfl
  | reset => rfl
  | _ => cases hedit

theorem ends_edit {command : ConfigCommand} (hedit : command.isEdit = true) :
    Ends lib mode path? fs (.config command) (executeConfig mode path? command { files := fs }) := by
  rw [executeConfig_edit mode path? hedit]
  cases hsave : (command.toSave fs path?).outcome with
  | error e =>
    rw [read_error (t := { files := fs }) (x := (ConfigCommand.toSave · path? command)) _ hsave]
    exact .failed (sameFiles_refl fs)
  | ok saved =>
    rw [read_ok (t := { files := fs }) (x := (ConfigCommand.toSave · path? command)) _ hsave]
    cases path? with
    | none => exact .failed (sameFiles_refl fs)
    | some path =>
      rcases saved.save_files fs path with ⟨e, after, hsaved, hsame⟩ | ⟨after, hsaved, hwrites⟩
      · rw [saveConfig_error (t := Trace.log { files := fs } _) _ hsaved]
        exact .failed hsame
      · rw [saveConfig_ok (t := Trace.log { files := fs } _) _ hsaved]
        exact ends_showLine _ (effect_of_toSave hedit hsave hwrites) (plainText?_of_isEdit hedit)

theorem ends_verify (lib : Libraries) (mode : OutputMode) (path? : Option Path) (fs : FileSystem) :
    Ends lib mode path? fs (.config .verify) (execute lib mode path? (.config .verify) { files := fs }) := by
  cases path? with
  | none => exact .failed (sameFiles_refl fs)
  | some path =>
    cases hverify : Config.verifyFile fs path with
    | error e =>
      show Ends lib mode (some path) fs _ (executeConfig mode (some path) .verify { files := fs })
      rw [executeConfig_verify_error (t := { files := fs }) hverify, ← Trace.log_nil { files := fs }]
      exact .failed (sameFiles_refl fs)
    | ok problems =>
      cases problems with
      | nil =>
        have hshows : Shows lib mode (some path) fs (.config .verify) _ := shows_verify hverify
        obtain ⟨events, hexecute⟩ := hshows.executes
        rw [hexecute]
        exact ends_report events (isReport_showVerified path []) rfl rfl
      | cons problem rest =>
        obtain ⟨t, hshown, hfiles⟩ := (isReport_showVerified path (problem :: rest)).prints mode { files := fs }
        show Ends lib mode (some path) fs _ (executeConfig mode (some path) .verify { files := fs })
        rw [executeConfig_verify_ok (t := { files := fs }) hverify, bind_apply, hshown]
        have hflaws : problem :: rest ≠ [] := List.cons_ne_nil problem rest
        cases mode <;> exact .flawed rfl rfl hverify hflaws (by decide) hfiles

theorem ends_executeConfig (command : ConfigCommand) :
    Ends lib mode path? fs (.config command) (executeConfig mode path? command { files := fs }) := by
  cases command with
  | view => exact ends_read (x := (loadConfig · path?)) isReport_showConfig rfl rfl
  | viewDefault => exact ends_report [] (isReport_showConfig Config.examples) rfl rfl
  | path =>
    cases path? with
    | none => exact .failed (sameFiles_refl fs)
    | some path => exact ends_showLine [] rfl rfl
  | set key value => exact ends_edit rfl
  | remove name => exact ends_edit rfl
  | reset => exact ends_edit rfl
  | verify => exact ends_verify lib mode path? fs

/-- Each command succeeds with its effect and an answer, or fails and has done nothing, or has shown flaws. -/
theorem ends_execute (lib : Libraries) (mode : OutputMode) (path? : Option Path) (fs : FileSystem) (command : Command) :
    Ends lib mode path? fs command (execute lib mode path? command { files := fs }) := by
  cases command with
  | parse text => exact ends_read (x := (readRule · path? text)) isReport_showParsed rfl rfl
  | eval text source => exact ends_read (x := (evaluateRule · path? text source)) isReport_showEvaluated rfl rfl
  | combine left right op source =>
    exact ends_read (x := (combineRules · path? left right op source)) isReport_showCombined rfl rfl
  | check names op source =>
    exact ends_read (x := (checkRules · path? names op source)) (isReport_showChecked names) rfl rfl
  | config command => exact ends_executeConfig command
  | completions shell =>
    refine .succeeded rfl fun _ => ?_
    show Answers lib path? (.completions shell) ("" ++ lib.completions shell)
    rw [String.empty_append]
    exact .script shell

end Ends
end Command

/-! ### What runs do to files -/

namespace Program
variable {i : Invocation}

/-- A run that fails changes no file, and a run that succeeds has the effect of its command: it changes only the file of
the configuration, and only if it sets an entry, removes a rule or resets the configuration. -/
theorem files_of_run {args : List String} (hargs : Request.ofArguments args = .ok (.run i)) (lib : Libraries)
    (env : Environment) (terminal : Bool) (fs : FileSystem) :
    let (output, after) := run lib env terminal fs args
    (output.exitCode ≠ 0 → SameFiles fs after) ∧
      (output.exitCode = 0 → Command.Effect fs (env.configPathFor i.options) i.command after) := by
  have hends := Command.ends_execute lib (i.options.outputMode terminal) (env.configPathFor i.options) fs i.command
  rw [run_of_ofArguments hargs]
  show ((i.run lib env terminal fs).1.exitCode ≠ 0 → SameFiles fs (i.run lib env terminal fs).2) ∧
    ((i.run lib env terminal fs).1.exitCode = 0 → Command.Effect fs _ i.command (i.run lib env terminal fs).2)
  rw [Invocation.exitCode_run, Invocation.files_run]
  generalize i.command.execute lib (i.options.outputMode terminal) (env.configPathFor i.options) { files := fs } =
    ended at hends ⊢
  cases hends with
  | succeeded heffect => exact ⟨absurd rfl, fun _ => heffect⟩
  | failed hfiles => exact ⟨fun _ => hfiles, fun hcode => absurd hcode (CommandError.exitCode_ne_zero _)⟩
  | flawed _ _ _ _ hcode hfiles => exact ⟨fun _ => hfiles ▸ sameFiles_refl fs, fun hzero => absurd hzero hcode⟩

/-- A rule is stored where the directory of the configuration is missing. A refused rule, and a path that ends with a
slash, change no file, though the directories on the way are made for the latter. -/
theorem files_of_set_rule :
    let args := ["config", "set", "rules.r", "a = 1"]
    let refused := ["config", "set", "rules.r", "a AND b"]
    (∃ after, run .plain { home := "home" } false {} args = ({ stdout := "Set rules.r = a = 1\n" }, after) ∧
      ∃ saved, Config.set Config.default "rules.r" "a = 1" = (.ok (), saved) ∧
        OnlyWrites {} "home/.rulekit/config.json" saved.toText after) ∧
      SameFiles {} (run .plain { home := "home" } false {} refused).2 ∧
      SameFiles {} (run .plain { home := "home", configPath := some "x/c.json/" } false {} args).2 ∧
      (run .plain { home := "home", configPath := some "x/c.json/" } false {} args).2.get? ["x"] = some .directory := by
  intro args refused
  have hargs : Request.ofArguments args = .ok (.run ⟨{}, .config (.set "rules.r" "a = 1")⟩) := by
    decide +kernel
  have hrefused : Request.ofArguments refused = .ok (.run ⟨{}, .config (.set "rules.r" "a AND b")⟩) := by
    decide +kernel
  refine ⟨?_, ?_, ?_, by decide +kernel⟩
  · have hcode : (run .plain { home := "home" } false {} args).1 = { stdout := "Set rules.r = a = 1\n" } := by
      decide +kernel
    obtain ⟨path, c, saved, hpath, hload, hset, hwrites⟩ :=
      (files_of_run hargs .plain { home := "home" } false {}).2 (congrArg (·.exitCode) hcode)
    cases hpath
    cases hload
    exact ⟨_, Prod.ext hcode rfl, saved, hset, hwrites⟩
  · exact (files_of_run hrefused .plain { home := "home" } false {}).1 (by decide +kernel)
  · exact (files_of_run hargs .plain { home := "home", configPath := some "x/c.json/" } false {}).1 (by decide +kernel)

end Program
end AttributeRules
