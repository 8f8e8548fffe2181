import AttributeRules.Proofs.Checks
import AttributeRules.Proofs.ConfigEntries
import AttributeRules.Proofs.SavedFiles

/-! Storing a rule.

A rule is stored exactly when it can be read within the limit on depth and has no problem, and otherwise nothing changes
(`Command.set_rule_cases`). A check of a stored rule fails only for the context (`Command.check_stored_rule`), as long
as the file can be read: a line separator in a rule is stored too, and cannot be read back. -/

namespace AttributeRules
open Command

/-! ### The first problem of a text -/

theorem Rule.parse_of_textProblems_eq_cons {limit : Nat} {text : String} {e : RuleError} {rest : List RuleError}
    (h : textProblems limit text = e :: rest) :
    parse limit text = .error e ∨ ∃ r, parse limit text = .ok r ∧ r.problems.head? = some e := by
  unfold textProblems at h
  cases hparse : parse limit text with
  | error e' =>
    rw [hparse] at h
    cases h
    exact .inl rfl
  | ok r =>
    rw [hparse] at h
    exact .inr ⟨r, rfl, congrArg List.head? h⟩

namespace Command
variable {fs after : FileSystem} {path : Path} {c : Config} {name value : String}

theorem change_rule (hname : name ≠ "") :
    (change c ("rules." ++ name) value).outcome =
      match Rule.textProblems c.depthLimit value with
      | [] => .ok { c with rules := c.rules.insert name value }
      | e :: _ => .error (.rule e) := by
  have hkey := ConfigKey.ofText?_rule hname
  have hset : c.set ("rules." ++ name) value = (.ok (), { c with rules := c.rules.insert name value }) := by
    rw [Config.set, hkey]
    rfl
  have hguard := Config.outcome_guardChange { c with rules := c.rules.insert name value } ("rules." ++ name) value
  rw [hkey] at hguard
  unfold change
  rw [hset]
  dsimp only
  rw [Logged.outcome_bind, hguard]
  show (match Rule.textProblems c.depthLimit value with
    | [] => (.ok () : Except CommandError Unit)
    | e :: _ => .error (.rule e)).bind _ = _
  cases Rule.textProblems c.depthLimit value <;> rfl

/-- A rule without problems is stored, and for another one the command fails before it saves anything. -/
theorem set_rule_cases (hload : Config.load fs path = .ok c) (hpath : fs.IsWritable path) (hname : name ≠ "")
    (value : String) (lib : Libraries) (mode : OutputMode) :
    let ended := run lib mode (some path) fs (.config (.set ("rules." ++ name) value))
    (Rule.textProblems c.depthLimit value = [] ∧ ended.exitCode = 0 ∧
        ended.files.find path = .ok (.file (Config.toText { c with rules := c.rules.insert name value }))) ∨
      ∃ e rest, Rule.textProblems c.depthLimit value = e :: rest ∧
        Fails lib mode (some path) fs (.config (.set ("rules." ++ name) value)) (.rule e) := by
  intro ended
  have hchange : (setEntry fs (some path) ("rules." ++ name) value).outcome = _ :=
    (outcome_setEntry hload).trans (change_rule hname)
  cases hproblems : Rule.textProblems c.depthLimit value with
  | nil =>
    rw [hproblems] at hchange
    obtain ⟨after, hsave, hfind⟩ := Config.exists_save { c with rules := c.rules.insert name value } hpath
    obtain ⟨hcode, hfiles⟩ := run_of_toSave lib mode (.set ("rules." ++ name) value) rfl hchange hsave
    refine .inl ⟨rfl, hcode, ?_⟩
    rw [show ended.files = after from hfiles]
    exact hfind
  | cons e rest =>
    rw [hproblems] at hchange
    exact .inr ⟨e, rest, rfl, fails_of_toSave (.set ("rules." ++ name) value) rfl hchange⟩

/-- A check of one rule without problems fails only for an attribute that is missing or of the wrong kind. -/
theorem check_stored_rule {op : Connective} {source : ContextSource} {context : Context}
    (hload : Config.load fs path = .ok c) (hrule : c.rules.get? name = some value)
    (hproblems : Rule.textProblems c.depthLimit value = []) (hop : c.settings.defaultOp = op.keyword)
    (hcontext : loadContext fs source = .ok (some context)) (lib : Libraries) (mode : OutputMode) :
    ∃ r, Rule.parse c.depthLimit value = .ok r ∧
      ((∃ result, Shows lib mode (some path) fs (.check [name] none source) (showChecked mode [name] ⟨r, op, result⟩)) ∨
        ∃ e, Fails lib mode (some path) fs (.check [name] none source) (.rule e) ∧
          (e.kind = .missingAttribute ∨ e.kind = .typeMismatch)) := by
  obtain ⟨r, hloaded, hr⟩ := (Config.exists_loadRule_iff hrule).mpr hproblems
  have hparse := (Config.loadRule_eq_ok_iff hrule).mp hloaded
  have hnames : ∀ n ∈ [name], ∃ r, c.loadRule n = .ok r ∧ r.problems = [] ∧ r.depth ≤ c.depthLimit := by
    intro n hn
    cases List.mem_singleton.mp hn
    exact ⟨r, hloaded, hr, (Rule.parse_eq_ok_iff.mp hparse).2⟩
  obtain ⟨rules, rule, hrules, hcombined, hcheck⟩ := checkIn_cases hop (List.cons_ne_nil name []) hnames context
  obtain rfl : rule = r := by
    rw [List.mapM_cons, hloaded] at hrules
    cases hrules
    exact (Option.some.inj hcombined).symm
  have hrun : (checkRules fs (some path) [name] none source).outcome = _ := outcome_checkRules hload hcontext none
  refine ⟨rule, hparse, ?_⟩
  rcases hcheck with ⟨result, hresult⟩ | ⟨e, herror, hmissing | hmismatch | ⟨-, -, hmany⟩⟩
  · exact .inl ⟨result, shows_check (hrun.trans hresult)⟩
  · exact .inr ⟨e, fails_check (hrun.trans herror), .inl hmissing⟩
  · exact .inr ⟨e, fails_check (hrun.trans herror), .inr hmismatch⟩
  · exact absurd hmany (Nat.lt_irrefl 1)

theorem load_of_find_rules {rules : NameMap String} (hload : Config.load fs path = .ok c)
    (hfind : after.find path = .ok (.file (Config.toText { c with rules := rules }))) :
    Config.load after path = if Config.Unbroken { c with rules := rules } then .ok { c with rules := rules }
      else .error (.malformed path (Config.toText { c with rules := rules })) := by
  have hstored : Config.stored { c with rules := rules } = { c with rules := rules } := by
    show { c with rules := rules, settings := c.stored.settings } = _
    rw [Config.stored_of_load hload]
  have hafter := Config.load_of_find_toText hfind
  rwa [hstored] at hafter

/-- A rule is stored exactly when it can be read and has no problem. Then the configuration is loaded with the rule in
it, and a check of the rule fails only for the context; unless a line separator stands in the configuration, which then
cannot be loaded. A rule that is not stored leaves the files as they were, and the exit code is that of the error of
reading it or of its first problem. -/
theorem set_rule_iff_and_check (hload : Config.load fs path = .ok c) (hpath : fs.IsWritable path) (hname : name ≠ "")
    (value : String) (lib : Libraries) (mode : OutputMode) :
    let ended := run lib mode (some path) fs (.config (.set ("rules." ++ name) value))
    let saved := { c with rules := c.rules.insert name value }
    (ended.exitCode = 0 ↔ ∃ r, Rule.parse c.depthLimit value = .ok r ∧ r.problems = []) ∧
      (ended.exitCode = 0 →
        Config.load ended.files path =
            (if saved.Unbroken then .ok saved else .error (.malformed path saved.toText)) ∧
          (saved.Unbroken → ∀ mode op source context, c.settings.defaultOp = op.keyword →
            loadContext ended.files source = .ok (some context) → ∃ r, Rule.parse c.depthLimit value = .ok r ∧
              ((∃ result, Shows lib mode (some path) ended.files (.check [name] none source)
                  (showChecked mode [name] ⟨r, op, result⟩)) ∨
                ∃ e, Fails lib mode (some path) ended.files (.check [name] none source) (.rule e) ∧
                  (e.kind = .missingAttribute ∨ e.kind = .typeMismatch)))) ∧
      (ended.exitCode ≠ 0 → ended.files = fs ∧ ∃ e, ended.exitCode = e.kind.exitCode ∧
        (Rule.parse c.depthLimit value = .error e ∨
          ∃ r, Rule.parse c.depthLimit value = .ok r ∧ r.problems.head? = some e)) := by
  intro ended saved
  rcases set_rule_cases hload hpath hname value lib mode with
    ⟨hproblems, hcode, hfind⟩ | ⟨e, rest, hproblems, hfails⟩
  · have hafter : Config.load ended.files path = if saved.Unbroken then .ok saved else _ :=
      load_of_find_rules hload hfind
    refine ⟨iff_of_true hcode (Rule.textProblems_eq_nil_iff_exists.mp hproblems), fun _ => ⟨hafter, ?_⟩, absurd hcode⟩
    intro hunbroken mode op source context hop hcontext
    rw [if_pos hunbroken] at hafter
    exact check_stored_rule (c := saved) hafter (NameMap.get?_insert_self _ _ _) hproblems hop hcontext lib mode
  · have hne : ended.exitCode ≠ 0 := by
      rw [show ended.exitCode = _ from hfails.exitCode]
      exact CommandError.exitCode_ne_zero _
    refine ⟨iff_of_false hne fun hstores => ?_, fun hzero => absurd hzero hne,
      fun _ => ⟨hfails.files, e, hfails.exitCode, ?_⟩⟩
    · rw [Rule.textProblems_eq_nil_iff_exists.mpr hstores] at hproblems
      cases hproblems
    · exact Rule.parse_of_textProblems_eq_cons hproblems

/-- A rule whose name has a dot is stored where there was no file, and is checked in an empty context. With an operand
that is no comparison it is refused. -/
theorem set_rule_dotted_name :
    let stored := run .plain .text (some "c.json") {} (.config (.set "rules.x.y" "a = 1 OR b > 2"))
    let check := Command.check ["x.y"] none (.inline "\x7b\x7d")
    let refused := run .plain .text (some "c.json") {} (.config (.set "rules.x.y" "a = 1 OR b"))
    (stored.exitCode = 0 ∧ Config.load stored.files "c.json" =
        .ok { rules := NameMap.ofList [("x.y", "a = 1 OR b > 2")] } ∧
      ∃ rule,
        (∃ result, Shows .plain .json (some "c.json") stored.files check
          (showChecked .json ["x.y"] ⟨rule, .and, result⟩)) ∨
        ∃ e, Fails .plain .json (some "c.json") stored.files check (.rule e) ∧
          (e.kind = .missingAttribute ∨ e.kind = .typeMismatch)) ∧
      refused.files = {} ∧ refused.exitCode = 2 := by
  intro stored check refused
  have hpath : FileSystem.IsWritable {} "c.json" := ⟨_, _, rfl, rfl⟩
  have hgate := @set_rule_iff_and_check {} "c.json" Config.default "x.y" rfl hpath (by decide)
  constructor
  · obtain ⟨hstores, hafter, -⟩ := hgate "a = 1 OR b > 2" .plain .text
    have hcode := hstores.mpr ⟨_, rfl, by decide +kernel⟩
    obtain ⟨hload, hcheck⟩ := hafter hcode
    rw [if_pos (by decide +kernel)] at hload
    obtain ⟨r, -, hchecked⟩ := hcheck (by decide +kernel) .json .and (.inline "\x7b\x7d") ∅ rfl rfl
    exact ⟨hcode, hload, r, hchecked⟩
  · obtain ⟨-, -, hrefused⟩ := hgate "a = 1 OR b" .plain .text
    have hcode : refused.exitCode = 2 := by decide +kernel
    exact ⟨(hrefused (hcode.trans_ne (by decide))).1, hcode⟩

/-- A rule with a line separator is stored, and then the configuration cannot be loaded. -/
theorem set_rule_line_separator :
    (Rule.parse 256 "a =\u20281").toOption.map Rule.problems = some [] ∧
      let stored := run .plain .text (some "c.json") {} (.config (.set "rules.r" "a =\u20281"))
      stored.exitCode = 0 ∧ ∃ text, Config.load stored.files "c.json" = .error (.malformed "c.json" text) :=
  ⟨by decide +kernel, by decide +kernel, Config.toText { rules := NameMap.ofList [("r", "a =\u20281")] },
    by decide +kernel⟩

end Command
end AttributeRules
