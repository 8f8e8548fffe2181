import AttributeRules.Proofs.Runs

/-! Runs of one command in different output modes.

Two runs are alike if they end with one exit code and leave the same files. Runs that begin with the same part are alike
if they go on alike (`alike_bind`), and parts that only print are alike whatever they print (`Run.Prints.alike`). By
cases on the command, its runs in two modes are alike (`Command.alike_execute`), also where a configuration with flaws is
verified: one run then ends with an error and the other at once. -/

namespace AttributeRules

/-- The two runs have the same exit code and leave the same files. -/
structure Alike (r₁ r₂ : RunResult) : Prop where
  exitCode : r₁.exitCode = r₂.exitCode
  files : r₁.files = r₂.files

section Parts
open Run

theorem alike_refl (r : RunResult) : Alike r r := ⟨rfl, rfl⟩

theorem alike_bind {α : Type} {x : Run α} {f g : α → Run Unit} (h : ∀ a t, Alike (f a t) (g a t)) (t : Trace) :
    Alike ((x >>= f) t) ((x >>= g) t) := by
  rw [bind_apply, bind_apply]
  cases x t with
  | ok a t => exact h a t
  | error stop t => exact alike_refl _

theorem Run.Prints.alike {x y : Run Unit} (hx : Prints x) (hy : Prints y) (t : Trace) : Alike (x t) (y t) := by
  obtain ⟨t₁, h₁, hfiles₁⟩ := hx t
  obtain ⟨t₂, h₂, hfiles₂⟩ := hy t
  rw [h₁, h₂]
  exact ⟨rfl, hfiles₁.trans hfiles₂.symm⟩

/-- What is done after two parts that only print starts with the same files. -/
theorem alike_of_prints {x₁ x₂ y₁ y₂ : Run Unit} (hx₁ : Prints x₁) (hx₂ : Prints x₂)
    (h : ∀ t₁ t₂ : Trace, t₁.files = t₂.files → Alike (y₁ t₁) (y₂ t₂)) (t : Trace) :
    Alike ((x₁ >>= fun _ => y₁) t) ((x₂ >>= fun _ => y₂) t) := by
  obtain ⟨t₁, h₁, hfiles₁⟩ := hx₁ t
  obtain ⟨t₂, h₂, hfiles₂⟩ := hx₂ t
  rw [bind_apply, bind_apply, h₁, h₂]
  exact h t₁ t₂ (hfiles₁.trans hfiles₂.symm)

end Parts

namespace Command
open Run

theorem alike_endVerification (mode₁ mode₂ : OutputMode) (problems : List ConfigProblem) {t₁ t₂ : Trace}
    (hfiles : t₁.files = t₂.files) : Alike (endVerification mode₁ problems t₁) (endVerification mode₂ problems t₂) := by
  cases problems with
  | nil => exact ⟨rfl, hfiles⟩
  | cons problem rest =>
    -- The code with which the run ends at once is that of the error it would end with.
    cases mode₁ <;> cases mode₂ <;> exact ⟨rfl, hfiles⟩

theorem alike_executeConfig (mode₁ mode₂ : OutputMode) (path? : Option Path) (command : ConfigCommand) (t : Trace) :
    Alike (executeConfig mode₁ path? command t) (executeConfig mode₂ path? command t) := by
  have hlines (line : String) (t : Trace) : Alike (showLine mode₁ line t) (showLine mode₂ line t) :=
    (prints_showLine mode₁ line).alike (prints_showLine mode₂ line) t
  have hconfig (c : Config) (t : Trace) : Alike (showConfig mode₁ c t) (showConfig mode₂ c t) :=
    ((isReport_showConfig c).prints mode₁).alike ((isReport_showConfig c).prints mode₂) t
  cases command with
  | view => exact alike_bind (fun fs t => alike_bind (fun c t => hconfig c t) t) t
  | viewDefault => exact hconfig Config.examples t
  | path => exact alike_bind (fun path t => hlines path t) t
  | set key value =>
    exact alike_bind (fun fs t => alike_bind (fun c t => alike_bind (fun _ t => hlines _ t) t) t) t
  | remove name =>
    exact alike_bind (fun fs t => alike_bind (fun c t => alike_bind (fun _ t => hlines _ t) t) t) t
  | reset => exact alike_bind (fun _ t => hlines _ t) t
  | verify =>
    refine alike_bind (fun path t => alike_bind (fun fs t => alike_bind (fun problems t => ?_) t) t) t
    have hreport := isReport_showVerified path problems
    exact alike_of_prints (hreport.prints mode₁) (hreport.prints mode₂)
      (fun _ _ hfiles => alike_endVerification mode₁ mode₂ problems hfiles) t

/-- The mode has no effect on the exit code and the files, and neither has what libraries write. -/
theorem alike_execute (lib₁ lib₂ : Libraries) (mode₁ mode₂ : OutputMode) (path? : Option Path) (command : Command)
    (t : Trace) : Alike (execute lib₁ mode₁ path? command t) (execute lib₂ mode₂ path? command t) := by
  have hreports {report : OutputMode → Run Unit} (h : IsReport report) (t : Trace) :
      Alike (report mode₁ t) (report mode₂ t) := (h.prints mode₁).alike (h.prints mode₂) t
  cases command with
  | parse text => exact alike_bind (fun fs t => alike_bind (fun rule t => hreports (isReport_showParsed rule) t) t) t
  | eval text source => exact alike_bind (fun fs t => alike_bind (fun x t => hreports (isReport_showEvaluated x) t) t) t
  | combine left right op source =>
    exact alike_bind (fun fs t => alike_bind (fun x t => hreports (isReport_showCombined x) t) t) t
  | check names op source =>
    exact alike_bind (fun fs t => alike_bind (fun x t => hreports (isReport_showChecked names x) t) t) t
  | config command => exact alike_executeConfig mode₁ mode₂ path? command t
  | completions shell => exact (prints_print _).alike (prints_print _) t

/-- A configuration that is not found to be valid has exit code 9, whether it cannot be read or has flaws. -/
theorem exitCode_verify {lib : Libraries} {mode : OutputMode} {path : Path} {t : Trace}
    (h : Config.verifyFile t.files path ≠ .ok []) :
    RunResult.exitCode (execute lib mode (some path) (.config .verify) t) = 9 := by
  show RunResult.exitCode (executeConfig mode (some path) .verify t) = 9
  cases hverify : Config.verifyFile t.files path with
  | error e =>
    rw [executeConfig_verify_error hverify]
    rfl
  | ok problems =>
    rw [executeConfig_verify_ok hverify]
    cases problems with
    | nil => exact absurd hverify h
    | cons problem rest =>
      obtain ⟨shown, hshown, -⟩ := (isReport_showVerified path (problem :: rest)).prints mode t
      rw [bind_apply, hshown]
      cases mode <;> rfl

end Command

namespace Program
open Command

theorem run_of_ofArguments {lib : Libraries} {env : Environment} {terminal : Bool} {fs : FileSystem}
    {args : List String} {i : Invocation} (hargs : Request.ofArguments args = .ok (.run i)) :
    run lib env terminal fs args = i.run lib env terminal fs := by
  rw [run, hargs]

/-- Two runs of one command with one path of the configuration have the same exit code and leave the same files, in
whatever modes their outcomes are shown, and whatever libraries write. A configuration that is not found to be valid has
exit code 9 in each. -/
theorem run_of_same_command {args₁ args₂ : List String} {i j : Invocation}
    (hi : Request.ofArguments args₁ = .ok (.run i)) (hj : Request.ofArguments args₂ = .ok (.run j))
    (hcommand : i.command = j.command) (hpath : i.options.configPath = j.options.configPath)
    (lib₁ lib₂ : Libraries) (env : Environment) (terminal₁ terminal₂ : Bool) (fs : FileSystem) :
    let first := run lib₁ env terminal₁ fs args₁
    let second := run lib₂ env terminal₂ fs args₂
    first.1.exitCode = second.1.exitCode ∧ first.2 = second.2 ∧
      (i.command = .config .verify → ∀ path, env.configPathFor i.options = some path →
        Config.verifyFile fs path ≠ .ok [] → first.1.exitCode = 9 ∧ second.1.exitCode = 9) := by
  intro first second
  have hplace : env.configPathFor i.options = env.configPathFor j.options := by
    rw [Environment.configPathFor, Environment.configPathFor, hpath]
  have hfirst : first = i.run lib₁ env terminal₁ fs := run_of_ofArguments hi
  have hsecond : second = j.run lib₂ env terminal₂ fs := run_of_ofArguments hj
  have halike := alike_execute lib₁ lib₂ (i.options.outputMode terminal₁) (j.options.outputMode terminal₂)
    (env.configPathFor i.options) i.command { files := fs }
  have hcode : first.1.exitCode = second.1.exitCode := by
    rw [hfirst, hsecond, Invocation.exitCode_run, Invocation.exitCode_run, ← hcommand, ← hplace]
    exact halike.exitCode
  refine ⟨hcode, ?_, fun hverify path hsome hflawed => ?_⟩
  · rw [hfirst, hsecond, Invocation.files_run, Invocation.files_run, ← hcommand, ← hplace]
    exact halike.files
  · have hnine : first.1.exitCode = 9 := by
      rw [hfirst, Invocation.exitCode_run, hverify, hsome]
      exact exitCode_verify (t := { files := fs }) hflawed
    exact ⟨hnine, hcode.symm.trans hnine⟩

/-- A configuration with a flaw is verified on a terminal, with its output redirected, and quietly. -/
theorem verify_flawed_in_each_mode :
    let fs : FileSystem := ⟨[(["c.json"], .file "\x7bsettings: \x7bmax_depth: 0\x7d\x7d")]⟩
    let shown := run .plain {} true fs ["--config", "c.json", "config", "verify"]
    let redirected := run .plain {} false fs ["config", "verify", "--config=c.json"]
    let quiet := run .plain {} true fs ["-q", "--config", "c.json", "config", "verify"]
    shown.1.exitCode = 9 ∧ redirected.1.exitCode = 9 ∧ quiet.1.exitCode = 9 ∧ shown.2 = redirected.2 ∧
      shown.2 = quiet.2 := by
  intro fs shown redirected quiet
  have hflawed : Config.verifyFile fs "c.json" ≠ .ok [] := by
    decide +kernel
  have hshown : Request.ofArguments ["--config", "c.json", "config", "verify"] =
      .ok (.run ⟨{ configPath := some "c.json" }, .config .verify⟩) := by
    decide +kernel
  have hredirected : Request.ofArguments ["config", "verify", "--config=c.json"] =
      .ok (.run ⟨{ configPath := some "c.json" }, .config .verify⟩) := by
    decide +kernel
  have hquiet : Request.ofArguments ["-q", "--config", "c.json", "config", "verify"] =
      .ok (.run ⟨{ configPath := some "c.json", quiet := true }, .config .verify⟩) := by
    decide +kernel
  obtain ⟨-, hsame, hcodes⟩ := run_of_same_command hshown hredirected rfl rfl .plain .plain {} true false fs
  obtain ⟨-, hsame', hcodes'⟩ := run_of_same_command hshown hquiet rfl rfl .plain .plain {} true true fs
  exact ⟨(hcodes rfl _ rfl hflawed).1, (hcodes rfl _ rfl hflawed).2, (hcodes' rfl _ rfl hflawed).2, hsame, hsame'⟩

end Program
end AttributeRules
