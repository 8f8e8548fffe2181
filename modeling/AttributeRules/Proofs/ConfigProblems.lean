import AttributeRules.Command.Steps
import AttributeRules.Proofs.ConfigEntries
import AttributeRules.Proofs.Reading
import AttributeRules.Proofs.SavedConfig

/-! What is wrong with a configuration that was edited.

An edit of a configuration without problems leaves the settings, and each rule for itself, without problems, so only
rules that are too deep can be wrong (`Edit.problems_stored`). No edit but of the limit on depth makes a rule too deep
(`Edit.tooDeepRules_stored`). -/

namespace AttributeRules

/-- Can the command change the configuration? -/
def ConfigCommand.isEdit : ConfigCommand → Bool
  | .set _ _ | .remove _ | .reset => true
  | _ => false

/-- Is the limit on depth what the command sets? -/
def ConfigCommand.setsMaxDepth : ConfigCommand → Bool
  | .set key _ => ConfigKey.ofText? key = some .maxDepth
  | _ => false

theorem Rule.textProblems_eq (limit : Nat) (text : String) :
    textProblems limit text =
      if (read text.toList).depth ≤ limit then (read text.toList).problems else [.tooDeep limit] := by
  rw [Rule.textProblems, Rule.parse_eq]
  by_cases hdepth : (read text.toList).depth ≤ limit
  · rw [if_pos hdepth, if_pos hdepth]
  · rw [if_neg hdepth, if_neg hdepth]

theorem Rule.textProblems_eq_nil_iff {limit : Nat} {text : String} :
    textProblems limit text = [] ↔ (read text.toList).depth ≤ limit ∧ (read text.toList).problems = [] := by
  rw [textProblems_eq]
  split <;> simp_all

namespace Config

/-! ### Problems -/

/-- The rules that are too deep for the limit on depth, as problems. -/
def tooDeepRules (c : Config) : List ConfigProblem :=
  (c.rules.entries.filter fun e => !(Rule.parse c.depthLimit e.2).isOk).map
    fun e => .badRule e.1 (.tooDeep c.depthLimit)

/-- Each rule has a name that is not blank, and operands that some context can evaluate. -/
def RulesSound (c : Config) : Prop :=
  ∀ e ∈ c.rules.entries, Text.trim e.1.toList ≠ [] ∧ (Rule.read e.2.toList).problems = []

theorem isOk_parse (limit : Nat) (text : String) :
    (Rule.parse limit text).isOk = decide ((Rule.read text.toList).depth ≤ limit) := by
  rw [Rule.parse_eq]
  split
  · rename_i hdepth
    rw [decide_eq_true hdepth]
    rfl
  · rename_i hdepth
    rw [decide_eq_false hdepth]
    rfl

theorem settingsProblems_eq_nil_iff {s : Settings} :
    settingsProblems s = [] ↔ s.maxDepth ≠ 0 ∧ ∃ op : Connective, s.defaultOp = op.keyword := by
  unfold settingsProblems Connective.ofText
  rw [List.append_eq_nil_iff]
  refine and_congr (by simp) ?_
  cases hop : Connective.ofText? s.defaultOp with
  | none =>
    refine ⟨(fun h => nomatch h), fun ⟨op, hkeyword⟩ => ?_⟩
    rw [Connective.ofText?_eq_some_iff.mpr hkeyword] at hop
    cases hop
  | some op => exact ⟨fun _ => ⟨op, Connective.ofText?_eq_some_iff.mp hop⟩, fun _ => rfl⟩

theorem depthLimit_pos {c : Config} (h : settingsProblems c.settings = []) : 0 < c.depthLimit := by
  obtain ⟨hdepth, -⟩ := settingsProblems_eq_nil_iff.mp h
  exact Nat.pos_of_ne_zero fun hzero => hdepth (UInt64.toNat_inj.mp hzero)

theorem ruleProblems_eq {limit : Nat} {name text : String} (hname : Text.trim name.toList ≠ [])
    (hproblems : (Rule.read text.toList).problems = []) :
    ruleProblems limit name text = if (Rule.parse limit text).isOk then [] else [.badRule name (.tooDeep limit)] := by
  rw [ruleProblems, if_neg (by simpa using hname), Rule.textProblems_eq, isOk_parse, hproblems]
  by_cases hdepth : (Rule.read text.toList).depth ≤ limit <;> simp [hdepth]

theorem flatMap_ruleProblems (limit : Nat) {es : List (String × String)}
    (h : ∀ e ∈ es, Text.trim e.1.toList ≠ [] ∧ (Rule.read e.2.toList).problems = []) :
    (es.flatMap fun (name, text) => ruleProblems limit name text) =
      (es.filter fun e => !(Rule.parse limit e.2).isOk).map fun e => .badRule e.1 (.tooDeep limit) := by
  induction es with
  | nil => rfl
  | cons e rest ih =>
    obtain ⟨⟨hname, hproblems⟩, hrest⟩ := List.forall_mem_cons.mp h
    rw [List.flatMap_cons, ih hrest]
    show ruleProblems limit e.1 e.2 ++ _ = _
    rw [ruleProblems_eq hname hproblems, List.filter_cons]
    cases (Rule.parse limit e.2).isOk <;> rfl

/-- Where the settings and the rules for themselves have no problems, only the limit on depth can make some. -/
theorem problems_eq_tooDeepRules {c : Config} (hsettings : settingsProblems c.settings = []) (hrules : c.RulesSound) :
    c.problems = c.tooDeepRules := by
  have hlimit : max c.depthLimit 1 = c.depthLimit := Nat.max_eq_left (depthLimit_pos hsettings)
  rw [problems, hsettings, hlimit, List.nil_append, flatMap_ruleProblems c.depthLimit hrules, tooDeepRules]

theorem ruleProblems_eq_nil_iff {limit : Nat} {name text : String} :
    ruleProblems limit name text = [] ↔ Text.trim name.toList ≠ [] ∧ Rule.textProblems limit text = [] := by
  simp [ruleProblems, List.append_eq_nil_iff]

theorem rulesSound_of_problems {c : Config} (h : c.problems = []) :
    settingsProblems c.settings = [] ∧ c.RulesSound := by
  obtain ⟨hsettings, hrules⟩ := List.append_eq_nil_iff.mp h
  refine ⟨hsettings, fun e he => ?_⟩
  obtain ⟨hname, htext⟩ := ruleProblems_eq_nil_iff.mp (List.flatMap_eq_nil_iff.mp hrules e he)
  exact ⟨hname, (Rule.textProblems_eq_nil_iff.mp htext).2⟩

theorem tooDeepRules_eq_nil_iff {c : Config} :
    c.tooDeepRules = [] ↔ ∀ e ∈ c.rules.entries, (Rule.read e.2.toList).depth ≤ c.depthLimit := by
  rw [tooDeepRules, List.map_eq_nil_iff, List.filter_eq_nil_iff]
  simp only [isOk_parse, Bool.not_eq_true', decide_eq_false_iff_not, Decidable.not_not]

theorem depth_le_of_problems {c : Config} (h : c.problems = []) :
    ∀ e ∈ c.rules.entries, (Rule.read e.2.toList).depth ≤ c.depthLimit := by
  obtain ⟨hsettings, hrules⟩ := rulesSound_of_problems h
  rw [problems_eq_tooDeepRules hsettings hrules] at h
  exact tooDeepRules_eq_nil_iff.mp h

/-! ### Edits -/

/-- The configuration that a command saves, if it changes the configuration. -/
def edited? (c : Config) : ConfigCommand → Option Config
  | .set key value => (Command.change c key value).outcome.toOption
  | .remove name => (c.remove name).1.toOption.map fun _ => (c.remove name).2
  | .reset => some default
  | _ => none

/-- What a command can save in place of a configuration. -/
inductive Edit (c : Config) : ConfigCommand → Config → Prop
  | rule {key value name : String} (hkey : ConfigKey.ofText? key = some (.rule name))
      (htext : Rule.textProblems c.depthLimit value = []) :
      Edit c (.set key value) { c with rules := c.rules.insert name value }
  | maxDepth {key value : String} {n : UInt64} (hkey : ConfigKey.ofText? key = some .maxDepth) (hn : n ≠ 0) :
      Edit c (.set key value) { c with settings := { c.settings with maxDepth := n } }
  | defaultOp {key value : String} (hkey : ConfigKey.ofText? key = some .defaultOp) (op : Connective) :
      Edit c (.set key value) { c with settings := { c.settings with defaultOp := op.keyword } }
  | suggestionThreshold {key value : String} (hkey : ConfigKey.ofText? key = some .suggestionThreshold) (n : UInt64) :
      Edit c (.set key value) { c with settings := { c.settings with suggestionThreshold := n } }
  | remove (name : String) : Edit c (.remove name) { c with rules := c.rules.erase name }
  | reset : Edit c .reset default

theorem outcome_guardChange (c : Config) (key value : String) :
    (Command.guardChange c key value).outcome =
      match ConfigKey.ofText? key with
      | some (.rule _) =>
        match Rule.textProblems c.depthLimit value with
        | [] => .ok ()
        | e :: _ => .error (.rule e)
      | _ => .ok () := by
  unfold Command.guardChange
  cases ConfigKey.ofText? key with
  | none => rfl
  | some k =>
    cases k with
    | rule name =>
      dsimp only
      rw [Logged.outcome_bind, Command.parseRule, Rule.textProblems]
      cases Rule.parse c.depthLimit value with
      | error e => rfl
      | ok r =>
        show (match r.problems with
          | [] => Logged.log _
          | e :: _ => Logged.fail (.rule e)).outcome = _
        cases hproblems : r.problems <;> simp [hproblems, Logged.log]
    | _ => rfl

theorem change_eq_ok_iff {c changed : Config} {key value : String} :
    (Command.change c key value).outcome = .ok changed ↔
      c.set key value = (.ok (), changed) ∧ (Command.guardChange changed key value).outcome = .ok () := by
  unfold Command.change
  rcases c.set key value with ⟨e | ⟨⟩, set⟩
  · exact ⟨(fun h => nomatch h), (fun h => nomatch h.1)⟩
  · dsimp only
    rw [Logged.outcome_bind]
    cases hguard : (Command.guardChange set key value).outcome with
    | error e =>
      refine ⟨(fun h => nomatch h), fun ⟨hset, hchanged⟩ => ?_⟩
      cases hset
      rw [hguard] at hchanged
      cases hchanged
    | ok _ =>
      refine ⟨fun h => ?_, fun ⟨hset, _⟩ => ?_⟩
      · cases h
        exact ⟨rfl, hguard⟩
      · cases hset
        rfl

theorem edit_of_change {c saved : Config} {key value : String} (h : (Command.change c key value).outcome = .ok saved) :
    c.Edit (.set key value) saved := by
  obtain ⟨hset, hguard⟩ := change_eq_ok_iff.mp h
  unfold Config.set at hset
  rw [outcome_guardChange] at hguard
  cases hkey : ConfigKey.ofText? key with
  | none =>
    rw [hkey] at hset
    cases hset
  | some k =>
    rw [hkey] at hset hguard
    cases k with
    | rule name =>
      cases hset
      refine .rule hkey ?_
      dsimp only at hguard
      split at hguard
      · assumption
      · cases hguard
    | maxDepth =>
      dsimp only [setAt] at hset
      split at hset
      · cases hset
      · split at hset
        · cases hset
        · cases hset
          exact .maxDepth hkey ‹_›
    | defaultOp =>
      dsimp only [setAt] at hset
      split at hset
      · cases hset
      · cases hset
        exact .defaultOp hkey _
    | suggestionThreshold =>
      dsimp only [setAt] at hset
      split at hset
      · cases hset
      · cases hset
        exact .suggestionThreshold hkey _

theorem edit_of_edited? {c saved : Config} {command : ConfigCommand} (h : c.edited? command = some saved) :
    c.Edit command saved := by
  cases command with
  | set key value =>
    replace h : (Command.change c key value).outcome.toOption = some saved := h
    cases hchange : (Command.change c key value).outcome with
    | error e =>
      rw [hchange] at h
      cases h
    | ok changed =>
      rw [hchange] at h
      cases h
      exact edit_of_change hchange
  | remove name =>
    replace h : (c.remove name).1.toOption.map (fun _ => (c.remove name).2) = some saved := h
    rcases c.remove_cases name with ⟨text, d, -, hremove, hchanges⟩ | ⟨-, hremove⟩
    · rw [hremove] at h
      cases h
      rw [hchanges.unique (c.changes_erase name)]
      exact .remove name
    · rw [hremove] at h
      cases h
  | reset =>
    cases h
    exact .reset
  | _ => cases h

theorem settingsProblems_stored {s : Settings} (h : settingsProblems s = []) : settingsProblems s.stored = [] := by
  obtain ⟨hdepth, hop⟩ := settingsProblems_eq_nil_iff.mp h
  exact settingsProblems_eq_nil_iff.mpr ⟨storedNumber_ne_zero hdepth, hop⟩

namespace Edit
variable {c saved : Config} {command : ConfigCommand}

theorem settingsProblems_eq_nil (h : c.Edit command saved) (hc : c.problems = []) :
    settingsProblems saved.settings = [] := by
  have hsettings := (rulesSound_of_problems hc).1
  obtain ⟨hdepth, hop⟩ := settingsProblems_eq_nil_iff.mp hsettings
  cases h with
  | rule _ _ => exact hsettings
  | maxDepth _ hn => exact settingsProblems_eq_nil_iff.mpr ⟨hn, hop⟩
  | defaultOp _ op => exact settingsProblems_eq_nil_iff.mpr ⟨hdepth, op, rfl⟩
  | suggestionThreshold _ _ => exact settingsProblems_eq_nil_iff.mpr ⟨hdepth, hop⟩
  | remove _ => exact hsettings
  | reset => rfl

/-- A rule of the saved configuration was there before, or it is the one that was stored. -/
theorem rule_mem (h : c.Edit command saved) {e : String × String} (he : e ∈ saved.rules.entries) :
    e ∈ c.rules.entries ∨ Rule.textProblems c.depthLimit e.2 = [] := by
  cases h with
  | rule _ htext =>
    rcases NameMap.mem_insertEntry he with rfl | he
    · exact .inr htext
    · exact .inl he
  | remove _ => exact .inl (List.mem_filter.mp he).1
  | reset => cases he
  | _ => exact .inl he

theorem rulesSound (h : c.Edit command saved) (hc : c.problems = [])
    (hnames : ∀ e ∈ saved.rules.entries, Text.trim e.1.toList ≠ []) : saved.RulesSound := by
  intro e he
  refine ⟨hnames e he, ?_⟩
  rcases h.rule_mem he with hold | htext
  · exact ((rulesSound_of_problems hc).2 e hold).2
  · exact (Rule.textProblems_eq_nil_iff.mp htext).2

/-- After an edit was saved and read again, only rules that are too deep are wrong. -/
theorem problems_stored (h : c.Edit command saved) (hc : c.problems = [])
    (hnames : ∀ e ∈ saved.rules.entries, Text.trim e.1.toList ≠ []) :
    saved.stored.problems = saved.stored.tooDeepRules :=
  problems_eq_tooDeepRules (settingsProblems_stored (h.settingsProblems_eq_nil hc)) (h.rulesSound hc hnames)

/-- An edit that leaves the limit on depth as it is makes no rule too deep. -/
theorem tooDeepRules_stored (h : c.Edit command saved) (hc : c.problems = []) (hstored : c.stored = c)
    (hcommand : command.setsMaxDepth = false) : saved.stored.tooDeepRules = [] := by
  refine tooDeepRules_eq_nil_iff.mpr fun e he => ?_
  have hdepth : (Rule.read e.2.toList).depth ≤ c.depthLimit := by
    rcases h.rule_mem he with hold | htext
    · exact depth_le_of_problems hc e hold
    · exact (Rule.textProblems_eq_nil_iff.mp htext).1
  have hlimit : c.stored.depthLimit = c.depthLimit := by rw [hstored]
  rw [← hlimit] at hdepth
  cases h with
  | maxDepth hkey _ => simp [ConfigCommand.setsMaxDepth, hkey] at hcommand
  | reset => cases he
  | _ => exact hdepth

end Edit
end Config
end AttributeRules
