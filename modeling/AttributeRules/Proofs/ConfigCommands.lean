import AttributeRules.Proofs.ConfigProblems
import AttributeRules.Proofs.Files
import AttributeRules.Proofs.Runs

/-! The commands that change the configuration.

A command that succeeds leaves a file that is read as what it saved, up to the rounding of numbers, and a command that
fails leaves the file as it was (`Command.run_edit_cases`). So a configuration without problems stays one, whatever is
run (`Session.sound`), except that a limit on depth may be set below the depth of the rules that are stored. Left out
are names that are blank, which are stored but are a problem, and line separators in names and texts, which are
stored but cannot be read. -/

namespace AttributeRules
open Command

/-! ### Files of configurations -/

namespace Config
variable {fs after : FileSystem} {path : Path} {c : Config} {text : String}

theorem load_of_find (h : fs.find path = .ok (.file text)) (hc : ofText? text = some c) : load fs path = .ok c := by
  rw [load, FileSystem.exists?, FileSystem.read, h]
  simp only [hc]
  rfl

theorem verifyFile_of_find (h : fs.find path = .ok (.file text)) (hc : ofText? text = some c) :
    verifyFile fs path = .ok c.problems := by
  rw [verifyFile, FileSystem.exists?, FileSystem.read, h]
  simp only [hc]
  rfl

/-- A configuration is read from a file, or it is the default where there is none. -/
theorem load_cases (h : load fs path = .ok c) :
    (∃ text, fs.find path = .ok (.file text) ∧ ofText? text = some c) ∨ c = default := by
  unfold load FileSystem.exists? FileSystem.read at h
  cases hfind : fs.find path with
  | error e =>
    rw [hfind] at h
    cases h
    exact .inr rfl
  | ok entry =>
    rw [hfind] at h
    cases entry with
    | directory => cases h
    | file text =>
      cases hc : ofText? text with
      | none =>
        simp only [hc] at h
        cases h
      | some found =>
        simp only [hc] at h
        cases h
        exact .inl ⟨text, rfl, hc⟩

theorem stored_default : default.stored = default := by
  rw [stored, default, Settings.stored_default]

theorem stored_of_load (h : load fs path = .ok c) : c.stored = c := by
  rcases load_cases h with ⟨text, -, hc⟩ | rfl
  · exact stored_of_ofText? hc
  · exact stored_default

/-- Saving writes the file, or there is none before and after it. -/
theorem save_cases (c : Config) (fs : FileSystem) (path : Path) :
    (∃ after, c.save fs path = (.ok (), after) ∧ after.find path = .ok (.file c.toText)) ∨
      ∃ e after, c.save fs path = (.error e, after) ∧
        ∀ text, fs.find path ≠ .ok (.file text) ∧ after.find path ≠ .ok (.file text) := by
  have hkept : ∀ text, fs.find path = .ok (.file text) → (fs.makeParents path).2.find path = .ok (.file text) :=
    fun text => FileSystem.find_makeParents
  unfold save
  rcases hmade : fs.makeParents path with ⟨e | ⟨⟩, made⟩
  · rw [hmade] at hkept
    have hnone := FileSystem.find_of_makeParents_error hmade
    exact .inr ⟨_, made, rfl, fun text => ⟨fun h => hnone _ (hkept text h), hnone _⟩⟩
  · rw [hmade] at hkept
    dsimp only
    cases hwrite : made.write path c.toText with
    | error e =>
      have hnone := FileSystem.find_of_write_error hwrite
      exact .inr ⟨_, made, rfl, fun text => ⟨fun h => hnone text (hkept text h), hnone text⟩⟩
    | ok written => exact .inl ⟨written, rfl, FileSystem.find_write hwrite⟩

/-- No name is blank, and no line separator stands in a name or text. -/
def Storable (c : Config) : Prop :=
  ∀ e ∈ c.rules.entries, Text.trim e.1.toList ≠ [] ∧ Json5.Unbroken e.1 ∧ Json5.Unbroken e.2

instance (c : Config) : Decidable c.Storable :=
  List.decidableBAll (fun e : String × String =>
    Text.trim e.1.toList ≠ [] ∧ Json5.Unbroken e.1 ∧ Json5.Unbroken e.2) c.rules.entries

theorem Storable.unbroken {c : Config} (h : c.Storable) (hsettings : settingsProblems c.settings = []) :
    c.Unbroken := by
  obtain ⟨-, op, hop⟩ := settingsProblems_eq_nil_iff.mp hsettings
  refine ⟨fun e he => (h e he).2, ?_⟩
  rw [hop]
  cases op <;> decide +kernel

/-- What is read after an edit was saved: no problem but rules below a new limit on depth. -/
theorem Edit.ofText?_toText {c saved : Config} {command : ConfigCommand} (h : c.Edit command saved)
    (hc : c.problems = []) (hstored : c.stored = c) (hsaved : saved.Storable) :
    ofText? saved.toText = some saved.stored ∧
      saved.stored.problems = if command.setsMaxDepth then saved.stored.tooDeepRules else [] := by
  have hunbroken := hsaved.unbroken (h.settingsProblems_eq_nil hc)
  have hproblems := h.problems_stored hc fun e he => (hsaved e he).1
  refine ⟨Config.ofText?_toText hunbroken, ?_⟩
  cases hcommand : command.setsMaxDepth with
  | true => rw [hproblems, if_pos rfl]
  | false => rw [hproblems, h.tooDeepRules_stored hc hstored hcommand, if_neg Bool.false_ne_true]

end Config

/-! ### Runs -/

namespace ConfigCommand

/-- The configuration that a command which changes it saves. -/
def toSave (fs : FileSystem) (path? : Option Path) : ConfigCommand → Logged Config
  | .set key value => setEntry fs path? key value
  | .remove name => removeRule fs path? name
  | _ => return Config.default

/-- What is shown when a command has changed the configuration. -/
def doneText : ConfigCommand → String
  | .set key value => s!"Set {key} = {value}"
  | .remove name => s!"Removed rule '{name}'"
  | _ => "Configuration reset to defaults"

end ConfigCommand

namespace Command
open ConfigCommand Run

variable {lib : Libraries} {mode : OutputMode} {fs after : FileSystem} {path? : Option Path} {path : Path}
  {c saved : Config} {command : ConfigCommand}

/-- The commands that change the configuration read what they save, save it, and show a line. -/
theorem executeConfig_edit (mode : OutputMode) (path? : Option Path) (hedit : command.isEdit = true) (t : Trace) :
    executeConfig mode path? command t =
      (do
        let saved ← toSave (← Run.files) path? command
        saveConfig path? saved
        showLine mode command.doneText : Run Unit) t := by
  cases command with
  | set key value => rfl
  | remove name => rfl
  | reset =>
    have hread := read_ok (x := (toSave · path? .reset))
      (fun saved => saveConfig path? saved >>= fun _ => showLine mode (doneText .reset)) (t := t) rfl
    exact (hread.trans (congrArg _ t.log_nil)).symm
  | _ => cases hedit

theorem saved_of_save {saved : Config} {t : Trace} (mode : OutputMode) (line : String)
    (hsave : saved.save t.files path = (.ok (), after)) :
    let ended : RunResult := (saveConfig (some path) saved >>= fun _ => showLine mode line) t
    ended.exitCode = 0 ∧ ended.files = after := by
  intro ended
  obtain ⟨t', hshown, hfiles⟩ := prints_showLine mode line { t with files := after }
  have hended : ended = _ := saveConfig_ok (showLine mode line) hsave
  rw [hended, hshown]
  exact ⟨rfl, hfiles⟩

/-- What is saved is found in the file, or there is none before and after the run. -/
theorem save_cases (mode : OutputMode) (saved : Config) (path : Path) (line : String) (t : Trace) :
    let ended : RunResult := (saveConfig (some path) saved >>= fun _ => showLine mode line) t
    (ended.exitCode = 0 ∧ ended.files.find path = .ok (.file saved.toText)) ∨
      ended.exitCode ≠ 0 ∧ ∀ text, t.files.find path ≠ .ok (.file text) ∧ ended.files.find path ≠ .ok (.file text) := by
  intro ended
  rcases saved.save_cases t.files path with ⟨after, hsave, hfind⟩ | ⟨e, after, hsave, hnone⟩
  · obtain ⟨hcode, hfiles⟩ := saved_of_save mode line hsave
    exact .inl ⟨hcode, hfiles ▸ hfind⟩
  · have hended : ended = _ := saveConfig_error (showLine mode line) hsave
    rw [hended]
    exact .inr ⟨CommandError.exitCode_ne_zero (.save e), hnone⟩

theorem outcome_setEntry {key value : String} (hload : Config.load fs path = .ok c) :
    (setEntry fs (some path) key value).outcome = (change c key value).outcome := by
  rw [setEntry, Logged.outcome_bind, outcome_loadConfig_of_load hload]
  rfl

theorem outcome_removeRule {name : String} (hload : Config.load fs path = .ok c) :
    (removeRule fs (some path) name).outcome =
      ((c.remove name).1.map fun _ => (c.remove name).2).mapError .unknownRule := by
  rw [removeRule, Logged.outcome_bind, outcome_loadConfig_of_load hload, Except.bind]
  rcases c.remove name with ⟨_ | _, left⟩ <;> rfl

theorem outcome_toSave_of_load (hload : Config.load fs path = .ok c) (hedit : command.isEdit = true) :
    (command.toSave fs (some path)).outcome.toOption = c.edited? command := by
  cases command with
  | set key value =>
    show (setEntry fs (some path) key value).outcome.toOption = _
    rw [outcome_setEntry hload]
    rfl
  | remove name =>
    show (removeRule fs (some path) name).outcome.toOption = (c.remove name).1.toOption.map fun _ => (c.remove name).2
    rw [outcome_removeRule hload]
    cases (c.remove name).1 <;> rfl
  | reset => rfl
  | _ => cases hedit

theorem outcome_toSave_of_load_error {e : ConfigFileError} (hload : Config.load fs path = .error e)
    (hedit : command.isEdit = true) :
    (command.toSave fs (some path)).outcome = .error (.load e) ∨ command = .reset := by
  have hconfig : (loadConfig fs (some path)).outcome = .error (.load e) := by
    rw [outcome_loadConfig, hload]
    rfl
  cases command with
  | set key value =>
    refine .inl ?_
    show (setEntry fs (some path) key value).outcome = _
    rw [setEntry, Logged.outcome_bind, hconfig]
    rfl
  | remove name =>
    refine .inl ?_
    show (removeRule fs (some path) name).outcome = _
    rw [removeRule, Logged.outcome_bind, hconfig]
    rfl
  | reset => exact .inr rfl
  | _ => cases hedit

/-- What is saved is an edit of the configuration that is there, or the default one if none can be read. -/
theorem edited?_of_toSave (hedit : command.isEdit = true) (h : (command.toSave fs (some path)).outcome = .ok saved) :
    (∃ c, Config.load fs path = .ok c ∧ c.edited? command = some saved) ∨
      (∃ e, Config.load fs path = .error e) ∧ saved = Config.default := by
  cases hload : Config.load fs path with
  | ok c =>
    refine .inl ⟨c, rfl, ?_⟩
    rw [← outcome_toSave_of_load hload hedit, h]
    rfl
  | error e =>
    rcases outcome_toSave_of_load_error hload hedit with herror | rfl
    · cases herror.symm.trans h
    · cases h
      exact .inr ⟨⟨e, rfl⟩, rfl⟩

/-- A command that succeeds leaves what it saved, and one that fails leaves the file as it was, or none. -/
inductive EditEnds (path : Path) (fs : FileSystem) (command : ConfigCommand) (code : Nat) (after : FileSystem) : Prop
  | failed (hcode : code ≠ 0)
      (hafter : after = fs ∨ ∀ text, fs.find path ≠ .ok (.file text) ∧ after.find path ≠ .ok (.file text))
  | saved {c : Config} (hcode : code = 0) (hsave : (command.toSave fs (some path)).outcome = .ok c)
      (hfind : after.find path = .ok (.file c.toText))

theorem editEnds_executeConfig (mode : OutputMode) (path : Path) (fs : FileSystem) (hedit : command.isEdit = true) :
    let ended : RunResult := executeConfig mode (some path) command { files := fs }
    EditEnds path fs command ended.exitCode ended.files := by
  intro ended
  have hended : ended = _ := executeConfig_edit mode (some path) hedit { files := fs }
  cases hsave : (command.toSave fs (some path)).outcome with
  | error e =>
    rw [hended.trans (read_error _ (x := (toSave · (some path) command)) hsave)]
    exact .failed e.exitCode_ne_zero (.inl rfl)
  | ok saved =>
    rw [hended.trans (read_ok _ (x := (toSave · (some path) command)) hsave)]
    rcases save_cases mode saved path command.doneText _ with ⟨hcode, hfind⟩ | ⟨hcode, hnone⟩
    · exact .saved hcode hsave hfind
    · exact .failed hcode (.inr hnone)

theorem editEnds_run (lib : Libraries) (mode : OutputMode) (path : Path) (fs : FileSystem) (command : ConfigCommand)
    (hedit : command.isEdit = true) :
    let ended := run lib mode (some path) fs (.config command)
    EditEnds path fs command ended.exitCode ended.files := by
  intro ended
  have hcode : ended.exitCode = RunResult.exitCode (executeConfig mode (some path) command { files := fs }) :=
    exitCode_run
  have hfiles : ended.files = RunResult.files (executeConfig mode (some path) command { files := fs }) := files_run
  rw [hcode, hfiles]
  exact editEnds_executeConfig mode path fs hedit

theorem fails_of_toSave {e : CommandError} (command : ConfigCommand) (hedit : command.isEdit = true)
    (h : (command.toSave fs path?).outcome = .error e) : Fails lib mode path? fs (.config command) e :=
  fails_of_execute ((executeConfig_edit mode path? hedit { files := fs }).trans
    (read_error _ (t := { files := fs }) (x := (toSave · path? command)) h))

theorem run_of_toSave (lib : Libraries) (mode : OutputMode) (command : ConfigCommand) (hedit : command.isEdit = true)
    (h : (command.toSave fs (some path)).outcome = .ok saved) (hsave : saved.save fs path = (.ok (), after)) :
    let ended := run lib mode (some path) fs (.config command)
    ended.exitCode = 0 ∧ ended.files = after := by
  intro ended
  have hexecute : execute lib mode (some path) (.config command) { files := fs } = _ :=
    (executeConfig_edit mode (some path) hedit { files := fs }).trans
      (read_ok _ (t := { files := fs }) (x := (toSave · (some path) command)) h)
  rw [show ended.exitCode = _ from exitCode_run, show ended.files = _ from files_run, hexecute]
  exact saved_of_save mode command.doneText hsave

/-! ### Sequences of commands -/

/-- File systems that commands on the configuration lead to, each in some mode, with whether one of them has succeeded. A
command that succeeds stores no name that is blank, no line separator, and no limit below the depth of a rule. -/
inductive Session (lib : Libraries) (path : Path) (fs : FileSystem) : FileSystem → Bool → Prop
  | start : Session lib path fs fs false
  | success {before : FileSystem} {written : Bool} {mode : OutputMode} {command : ConfigCommand}
      (h : Session lib path fs before written) (hedit : command.isEdit = true)
      (hexit : (run lib mode (some path) before (.config command)).exitCode = 0)
      (hsaved : ∀ c saved, Config.load before path = .ok c → c.edited? command = some saved →
        saved.Storable ∧ (command.setsMaxDepth = true → saved.stored.tooDeepRules = [])) :
      Session lib path fs (run lib mode (some path) before (.config command)).files true
  | failure {before : FileSystem} {written : Bool} {mode : OutputMode} {command : ConfigCommand}
      (h : Session lib path fs before written) (hedit : command.isEdit = true)
      (hexit : (run lib mode (some path) before (.config command)).exitCode ≠ 0) :
      Session lib path fs (run lib mode (some path) before (.config command)).files written

/-- What a file system is in while commands are run: no problem can be read, and a file can where one was written. -/
structure Sound (path : Path) (fs : FileSystem) (written : Bool) : Prop where
  problems : ∀ c, Config.load fs path = .ok c → c.problems = []
  file : written = true → ∃ text c, fs.find path = .ok (.file text) ∧ Config.ofText? text = some c

theorem sound_of_no_file (h : ∀ text, fs.find path ≠ .ok (.file text)) : Sound path fs false := by
  refine ⟨fun c hload => ?_, (fun hwritten => nomatch hwritten)⟩
  rcases Config.load_cases hload with ⟨text, hfind, -⟩ | rfl
  · exact absurd hfind (h text)
  · rfl

theorem sound_of_find {written : Bool} (hfind : fs.find path = .ok (.file saved.toText))
    (hsaved : Config.ofText? saved.toText = some c) (hc : c.problems = []) : Sound path fs written := by
  refine ⟨fun c' hload => ?_, fun _ => ⟨_, c, hfind, hsaved⟩⟩
  rw [Config.load_of_find hfind hsaved] at hload
  cases hload
  exact hc

/-- Commands keep a configuration without problems one, from a path that leads to nothing on. -/
theorem Session.sound {written : Bool} (hfs : fs.exists? path = false) (h : Session lib path fs after written) :
    Sound path after written := by
  induction h with
  | start =>
    refine sound_of_no_file fun text hfind => ?_
    rw [FileSystem.exists?, hfind] at hfs
    cases hfs
  | @success before written mode command h hedit hexit hsaved ih =>
    cases editEnds_run lib mode path before command hedit with
    | failed hcode => exact absurd hexit hcode
    | @saved saved _ hsave hfind =>
      rcases edited?_of_toSave hedit hsave with ⟨c, hload, hedited⟩ | ⟨-, rfl⟩
      · obtain ⟨hstorable, hdepth⟩ := hsaved c saved hload hedited
        obtain ⟨htext, hproblems⟩ := (Config.edit_of_edited? hedited).ofText?_toText (ih.problems c hload)
          (Config.stored_of_load hload) hstorable
        refine sound_of_find hfind htext ?_
        rw [hproblems]
        split
        · exact hdepth ‹_›
        · rfl
      · -- A reset needs nothing that can be read.
        obtain ⟨htext, hproblems⟩ := (Config.Edit.reset (c := Config.default)).ofText?_toText rfl Config.stored_default
          (fun _ he => nomatch he)
        exact sound_of_find hfind htext hproblems
  | @failure before written mode command h hedit hexit ih =>
    cases editEnds_run lib mode path before command hedit with
    | failed _ hafter =>
      rcases hafter with hsame | hnone
      · rw [hsame]
        exact ih
      · -- A file that is there can always be written, so none was written before.
        cases written with
        | false => exact sound_of_no_file fun text => (hnone text).2
        | true =>
          obtain ⟨text, -, hfind, -⟩ := ih.file rfl
          exact absurd hfind (hnone text).1
    | saved hcode => exact absurd hcode hexit

/-- A configuration without problems is shown to be valid. -/
theorem shows_verify (hverify : Config.verifyFile fs path = .ok []) :
    Shows lib mode (some path) fs (.config .verify) (showVerified mode path []) := by
  obtain ⟨t, hshown, -⟩ := (isReport_showVerified path []).prints mode { files := fs }
  refine (isReport_showVerified path []).shows [] ?_
  show executeConfig mode (some path) .verify { files := fs } = _
  rw [executeConfig_verify_ok (t := { files := fs }) hverify, Trace.log_nil, bind_apply, hshown]
  rfl

/-- A command that succeeds on a configuration without problems leaves the edited configuration, with its numbers as
they are read again; it has no problems but for rules that are too deep for a new limit. After commands that started
without a file, and set no such limit, a file that they have written is found to be valid. -/
theorem verified_after_edits (lib : Libraries) (path : Path) (mode : OutputMode) :
    (∀ fs c command, Config.load fs path = .ok c → c.problems = [] → command.isEdit = true →
      (∀ saved, c.edited? command = some saved → saved.Storable) →
        let ended := run lib mode (some path) fs (.config command)
        ended.exitCode = 0 →
          ∃ saved, c.edited? command = some saved ∧ Config.load ended.files path = .ok saved.stored ∧
            saved.stored.problems = if command.setsMaxDepth then saved.stored.tooDeepRules else []) ∧
      ∀ fs after, fs.exists? path = false → Session lib path fs after true →
        Config.verifyFile after path = .ok [] ∧
          Shows lib mode (some path) after (.config .verify) (showVerified mode path []) := by
  refine ⟨?_, fun fs after hfs h => ?_⟩
  · intro fs c command hload hc hedit hstorable ended hexit
    cases editEnds_run lib mode path fs command hedit with
    | failed hcode => exact absurd hexit hcode
    | @saved saved _ hsave hfind =>
      rcases edited?_of_toSave hedit hsave with ⟨c', hload', hedited⟩ | ⟨⟨e, herror⟩, -⟩
      · cases hload.symm.trans hload'
        obtain ⟨htext, hproblems⟩ := (Config.edit_of_edited? hedited).ofText?_toText hc (Config.stored_of_load hload)
          (hstorable saved hedited)
        exact ⟨saved, hedited, Config.load_of_find hfind htext, hproblems⟩
      · cases hload.symm.trans herror
  · have hsound := h.sound hfs
    obtain ⟨text, c, hfind, htext⟩ := hsound.file rfl
    have hverify : Config.verifyFile after path = .ok [] := by
      rw [Config.verifyFile_of_find hfind htext, hsound.problems c (Config.load_of_find hfind htext)]
    exact ⟨hverify, shows_verify hverify⟩

/-- A rule that is not there cannot be removed, and then one is stored; the file is valid. Where a rule of depth two is
stored, it is too deep for a limit of one. -/
theorem verified_after_edits_of_one_rule :
    (let removed := run .plain .text (some "c.json") {} (.config (.remove "r"))
      let stored := run .plain .json (some "c.json") removed.files (.config (.set "rules.r" "a = 1"))
      removed.exitCode = 10 ∧ stored.exitCode = 0 ∧ Config.verifyFile stored.files "c.json" = .ok [] ∧
        Shows .plain .text (some "c.json") stored.files (.config .verify) (showVerified .text "c.json" [])) ∧
      ∃ saved, Config.load (run .plain .text (some "c.json")
          ⟨[(["c.json"], .file "\x7brules: \x7br: 'a = 1 AND b = 2'\x7d\x7d")]⟩
          (.config (.set "settings.max_depth" "1"))).files "c.json" = .ok saved ∧
        saved.problems = [.badRule "r" (.tooDeep 1)] := by
  constructor
  · intro removed stored
    have hremoved : removed.exitCode = 10 := by decide +kernel
    have hremove : Session .plain "c.json" {} removed.files false :=
      .failure .start rfl (hremoved.trans_ne (by decide))
    have hempty : Config.load removed.files "c.json" = .ok Config.default := rfl
    have hstored : stored.exitCode = 0 := by decide +kernel
    have hsaved : Config.default.edited? (.set "rules.r" "a = 1") =
        some { rules := NameMap.ofList [("r", "a = 1")] } := by
      decide +kernel
    have hset : Session .plain "c.json" {} stored.files true := by
      refine .success hremove rfl hstored ?_
      intro c saved hload hedited
      cases hempty.symm.trans hload
      cases hsaved.symm.trans hedited
      decide +kernel
    exact ⟨hremoved, hstored, (verified_after_edits .plain "c.json" .text).2 {} _ rfl hset⟩
  · have hload : Config.load ⟨[(["c.json"], .file "\x7brules: \x7br: 'a = 1 AND b = 2'\x7d\x7d")]⟩ "c.json" =
        .ok { rules := NameMap.ofList [("r", "a = 1 AND b = 2")] } := by
      decide +kernel
    have hlowered : Config.edited? { rules := NameMap.ofList [("r", "a = 1 AND b = 2")] }
        (.set "settings.max_depth" "1") =
          some { rules := NameMap.ofList [("r", "a = 1 AND b = 2")], settings := { maxDepth := 1 } } := by
      decide +kernel
    obtain ⟨saved, hedited, hsaved, hproblems⟩ := (verified_after_edits .plain "c.json" .text).1 _ _
      (.set "settings.max_depth" "1") hload (by decide +kernel) rfl
      (fun saved hedited => by cases hlowered.symm.trans hedited; decide +kernel) (by decide +kernel)
    cases hlowered.symm.trans hedited
    exact ⟨_, hsaved, hproblems⟩

/-- A limit on depth may be set below the depth of a rule that is stored, and a rule may be stored under a blank name;
both are flaws then. -/
theorem flawed_after_lower_maxDepth :
    (let fs : FileSystem := ⟨[(["c.json"], .file "\x7brules: \x7br: 'a = 1 AND b = 2'\x7d\x7d")]⟩
      let lowered := run .plain .text (some "c.json") fs (.config (.set "settings.max_depth" "1"))
      Config.verifyFile fs "c.json" = .ok [] ∧ lowered.exitCode = 0 ∧
        Config.verifyFile lowered.files "c.json" = .ok [.badRule "r" (.tooDeep 1)]) ∧
      (let stored := run .plain .text (some "c.json") {} (.config (.set "rules. " "a = 1"))
      Config.load {} "c.json" = .ok Config.default ∧ Config.default.problems = [] ∧ stored.exitCode = 0 ∧
        Config.verifyFile stored.files "c.json" = .ok [.blankName " "]) := by
  decide +kernel

end Command
end AttributeRules
