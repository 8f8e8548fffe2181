import AttributeRules.Proofs.ConfigProblems
import AttributeRules.Proofs.ContextShape
import AttributeRules.Proofs.Joining
import AttributeRules.Proofs.Runs

/-! Checks of named rules.

A configuration has no problems exactly when its settings can be used and each of its rules can be loaded and has no
problem of its own. A check of such rules fails only for the context, or for the depth of many rules together
(`Command.checkIn_cases`). -/

namespace AttributeRules
open Text

/-! ### Many results -/

section Traversal
variable {α β ε δ : Type} {f : α → Except ε β}

theorem exists_mapM_eq_ok {p : β → Prop} {xs : List α} (h : ∀ x ∈ xs, ∃ y, f x = .ok y ∧ p y) :
    ∃ ys, xs.mapM f = .ok ys ∧ ys.length = xs.length ∧ ∀ y ∈ ys, p y := by
  induction xs with
  | nil => exact ⟨[], rfl, rfl, List.forall_mem_nil p⟩
  | cons x xs ih =>
    obtain ⟨⟨y, hy, hp⟩, hxs⟩ := List.forall_mem_cons.mp h
    obtain ⟨ys, hys, hlength, hps⟩ := ih hxs
    refine ⟨y :: ys, ?_, congrArg (· + 1) hlength, List.forall_mem_cons.mpr ⟨hp, hps⟩⟩
    rw [List.mapM_cons, hy, hys]
    rfl

theorem mapM_mapError_of_ok (g : ε → δ) {xs : List α} {ys : List β} (h : xs.mapM f = .ok ys) :
    xs.mapM (fun x => (f x).mapError g) = .ok ys := by
  induction xs generalizing ys with
  | nil =>
    cases h
    rfl
  | cons x xs ih =>
    rw [List.mapM_cons] at h ⊢
    cases hx : f x with
    | error e =>
      rw [hx] at h
      cases h
    | ok y =>
      cases hxs : xs.mapM f with
      | error e =>
        rw [hx, hxs] at h
        cases h
      | ok zs =>
        rw [hx, hxs] at h
        rw [ih hxs]
        cases h
        rfl

end Traversal

/-! ### Rules without problems -/

theorem Comparison.kind_of_error? {operand : String} {c : Comparison} {kind? : Option ValueKind} {e : RuleError}
    (h : c.error? operand kind? = some e) : e.kind = .missingAttribute ∨ e.kind = .typeMismatch := by
  unfold error? at h
  split at h
  · cases h
    exact .inl rfl
  · split at h
    · cases h
      exact .inr rfl
    · cases h

namespace Rule

theorem textProblems_eq_nil_iff_exists {limit : Nat} {text : String} :
    textProblems limit text = [] ↔ ∃ r, parse limit text = .ok r ∧ r.problems = [] := by
  unfold textProblems
  cases parse limit text with
  | error e => simp
  | ok r => simp

/-- The evaluation of a rule without problems fails only for an attribute that is missing or of the wrong kind, or where
the rule is too deep. -/
theorem evaluate_error_cases {context : Context} {limit : Nat} {r : Rule} {e : RuleError} (hproblems : r.problems = [])
    (h : r.evaluate context limit = .error e) :
    e.kind = .missingAttribute ∨ e.kind = .typeMismatch ∨ e = .tooDeep limit ∧ limit < r.depth := by
  have hvisits := h
  rw [evaluate_eq_outcomeOf, outcomeOf] at hvisits
  split at hvisits
  · rename_i e' hfirst
    cases hvisits
    obtain ⟨x, hx, herror⟩ := List.exists_of_findSome?_eq_some hfirst
    cases x with
    | operand v =>
      obtain ⟨c, hc⟩ := Comparison.problem?_eq_none_iff.mp
        (problems_eq_nil_iff.mp hproblems v (mem_operands_of_mem_visits hx))
      rw [Visit.error?, operandError?_eq, hc] at herror
      rcases Comparison.kind_of_error? herror with hmissing | hmismatch
      · exact .inl hmissing
      · exact .inr (.inl hmismatch)
    | tooDeep s =>
      cases herror
      refine .inr (.inr ⟨rfl, Nat.lt_of_not_le fun hdepth => ?_⟩)
      exact evaluate_ne_tooDeep hdepth limit h
  · cases hvisits

theorem problems_foldl_operator {op : Connective} {first : Rule} {rest : List Rule}
    (h : ∀ r ∈ first :: rest, r.problems = []) : (rest.foldl (operator op) first).problems = [] := by
  refine problems_eq_nil_iff.mpr fun v hv => ?_
  rw [operands_foldl_operator, List.mem_append, List.mem_flatMap] at hv
  rcases hv with hv | ⟨r, hr, hv⟩
  · exact problems_eq_nil_iff.mp (h first List.mem_cons_self) v hv
  · exact problems_eq_nil_iff.mp (h r (List.mem_cons_of_mem first hr)) v hv

end Rule

/-! ### Checks -/

namespace Command

/-- What a check of named rules comes to in a context. -/
def checkIn (c : Config) (names : List String) (op : String) (context : Context) : Except CommandError Checked := do
  let op ← readConnective op
  let rules ← names.mapM fun name => (c.loadRule name).mapError .ofLoadError
  match Rule.combineAll op rules with
  | none => throw .noRules
  | some rule => return ⟨rule, op, ← (rule.evaluate context c.depthLimit).mapError .rule⟩

theorem outcome_requireContext {fs : FileSystem} {source : ContextSource} {context : Context}
    (hcontext : loadContext fs source = .ok (some context)) : (requireContext fs source).outcome = .ok context := by
  have hfind : (findContext fs source).outcome = .ok (some context) := by
    rw [findContext, Logged.outcome_bind, hcontext]
    rfl
  rw [requireContext, Logged.outcome_bind, hfind]
  rfl

theorem outcome_mapM {α β : Type} (f : α → Logged β) (xs : List α) :
    (xs.mapM f).outcome = xs.mapM fun x => (f x).outcome := by
  have hloop (ys : List β) : (List.mapM.loop f xs ys).outcome = List.mapM.loop (fun x => (f x).outcome) xs ys := by
    induction xs generalizing ys with
    | nil => rfl
    | cons x xs ih =>
      rw [List.mapM.loop, List.mapM.loop, Logged.outcome_bind]
      exact congrArg _ (funext fun y => ih (y :: ys))
  exact hloop []

section Checks
variable {c : Config} {names : List String} {op : Connective} {context : Context}

/-- A check of named rules reads the configuration and the context, and the rest is settled by these. -/
theorem outcome_checkRules {fs : FileSystem} {path : Path} {source : ContextSource}
    (hload : Config.load fs path = .ok c) (hcontext : loadContext fs source = .ok (some context))
    (given : Option String) :
    (checkRules fs (some path) names given source).outcome =
      checkIn c names (given.getD c.settings.defaultOp) context := by
  rw [checkRules, Logged.outcome_bind, outcome_loadConfig_of_load hload]
  show (requireContext fs source >>= _).outcome = _
  rw [Logged.outcome_bind, outcome_requireContext hcontext]
  show (liftM (readConnective (given.getD c.settings.defaultOp)) >>= _ : Logged Checked).outcome = _
  rw [Logged.outcome_bind, Logged.outcome_lift, checkIn]
  refine congrArg _ (funext fun op => ?_)
  rw [Logged.outcome_bind, outcome_mapM]
  refine congrArg _ (funext fun rules => ?_)
  rw [Logged.outcome_bind, combineAll]
  cases Rule.combineAll op rules with
  | none => rfl
  | some rule =>
    show (Logged.log _ >>= _ : Logged Checked).outcome = _
    rw [Logged.outcome_bind]
    show (evaluate c context rule >>= _).outcome = _
    rw [Logged.outcome_bind, evaluate]
    rfl

theorem checkIn_eq {rules : List Rule} {rule : Rule} (hrules : names.mapM c.loadRule = .ok rules)
    (hrule : Rule.combineAll op rules = some rule) :
    checkIn c names op.keyword context =
      ((rule.evaluate context c.depthLimit).mapError .rule).map (⟨rule, op, ·⟩) := by
  have hop : readConnective op.keyword = .ok op := by
    rw [readConnective, Connective.ofText, Connective.ofText?_keyword]
    rfl
  have hloaded := mapM_mapError_of_ok CommandError.ofLoadError hrules
  simp only [checkIn, hop, hloaded, hrule, bind, Except.bind]
  cases rule.evaluate context c.depthLimit <;> rfl

/-- A check of rules that can be loaded and have no problems has a result, unless an attribute is missing or of the
wrong kind, or many rules are too deep together. -/
theorem checkIn_cases (hop : c.settings.defaultOp = op.keyword) (hne : names ≠ [])
    (hnames : ∀ name ∈ names, ∃ r, c.loadRule name = .ok r ∧ r.problems = [] ∧ r.depth ≤ c.depthLimit)
    (context : Context) :
    ∃ rules rule, names.mapM c.loadRule = .ok rules ∧ Rule.combineAll op rules = some rule ∧
      ((∃ result, checkIn c names c.settings.defaultOp context = .ok ⟨rule, op, result⟩) ∨
        ∃ e, checkIn c names c.settings.defaultOp context = .error (.rule e) ∧
          (e.kind = .missingAttribute ∨ e.kind = .typeMismatch ∨
            e = .tooDeep c.depthLimit ∧ c.depthLimit < rule.depth ∧ 1 < names.length)) := by
  obtain ⟨rules, hrules, hlength, hall⟩ := exists_mapM_eq_ok hnames
  cases rules with
  | nil => exact absurd (List.length_eq_zero_iff.mp hlength.symm) hne
  | cons first rest =>
    have hproblems : (rest.foldl (.operator op) first).problems = [] :=
      Rule.problems_foldl_operator fun r hr => (hall r hr).1
    refine ⟨first :: rest, rest.foldl (.operator op) first, hrules, Rule.combineAll_cons first rest, ?_⟩
    rw [hop, checkIn_eq hrules (Rule.combineAll_cons first rest)]
    cases hresult : (rest.foldl (.operator op) first).evaluate context c.depthLimit with
    | ok result => exact .inl ⟨result, rfl⟩
    | error e =>
      refine .inr ⟨e, rfl, ?_⟩
      rcases Rule.evaluate_error_cases hproblems hresult with hmissing | hmismatch | ⟨rfl, hdeep⟩
      · exact .inl hmissing
      · exact .inr (.inl hmismatch)
      · -- One rule alone is as deep as it was when it was loaded.
        refine .inr (.inr ⟨rfl, hdeep, ?_⟩)
        cases rest with
        | nil => exact absurd (hall first List.mem_cons_self).2 (Nat.not_le_of_lt hdeep)
        | cons next rest =>
          rw [← hlength, List.length_cons, List.length_cons]
          omega

end Checks
end Command

/-! ### Configurations without problems -/

namespace Config

theorem loadRule_eq {c : Config} {name text : String} (h : c.rules.get? name = some text) :
    c.loadRule name = (Rule.parse c.depthLimit text).mapError .unreadable := by
  rw [loadRule, find, h]

theorem loadRule_eq_ok_iff {c : Config} {name text : String} (h : c.rules.get? name = some text) {r : Rule} :
    c.loadRule name = .ok r ↔ Rule.parse c.depthLimit text = .ok r := by
  rw [loadRule_eq h]
  cases Rule.parse c.depthLimit text <;> simp [Except.mapError]

theorem exists_loadRule_iff {c : Config} {name text : String} (h : c.rules.get? name = some text) :
    (∃ r, c.loadRule name = .ok r ∧ r.problems = []) ↔ Rule.textProblems c.depthLimit text = [] := by
  simp only [loadRule_eq_ok_iff h, Rule.textProblems_eq_nil_iff_exists]

theorem problems_eq_nil_iff_forall {c : Config} :
    c.problems = [] ↔ settingsProblems c.settings = [] ∧ ∀ name text, c.rules.get? name = some text →
      trim name.toList ≠ [] ∧ Rule.textProblems c.depthLimit text = [] := by
  rw [problems, List.append_eq_nil_iff, List.flatMap_eq_nil_iff]
  refine and_congr_right fun hsettings => ?_
  rw [Nat.max_eq_left (depthLimit_pos hsettings)]
  constructor
  · intro h name text hrule
    exact ruleProblems_eq_nil_iff.mp (h (name, text) (NameMap.get?_eq_some_iff.mp hrule))
  · rintro h ⟨name, text⟩ he
    exact ruleProblems_eq_nil_iff.mpr (h name text (NameMap.get?_eq_some_iff.mpr he))

theorem settingsProblems_eq_nil_iff_range {s : Settings} :
    settingsProblems s = [] ↔ 1 ≤ s.maxDepth ∧ (s.defaultOp = "AND" ∨ s.defaultOp = "OR") := by
  rw [settingsProblems_eq_nil_iff]
  refine and_congr ?_ ⟨?_, ?_⟩
  · rw [UInt64.le_iff_toNat_le, ne_eq, ← UInt64.toNat_inj]
    exact Nat.one_le_iff_ne_zero.symm
  · rintro ⟨op, hop⟩
    cases op with
    | and => exact .inl hop
    | or => exact .inr hop
  · rintro (hop | hop)
    · exact ⟨.and, hop⟩
    · exact ⟨.or, hop⟩

/-- A configuration has no problems exactly when its limit on depth is not zero, its connective is one, and each of its
rules has a name with a character that is not blank and can be loaded and evaluated in some context. Then a check of any
of its rules has a result, unless an attribute is missing or of the wrong kind, or the combination of many rules is too
deep. -/
theorem problems_eq_nil_iff_and_check (c : Config) :
    (c.problems = [] ↔
      1 ≤ c.settings.maxDepth ∧ (c.settings.defaultOp = "AND" ∨ c.settings.defaultOp = "OR") ∧
        ∀ name text, c.rules.get? name = some text →
          (∃ char ∈ name.toList, isBlank char = false) ∧ ∃ r, c.loadRule name = .ok r ∧ r.problems = []) ∧
      (c.problems = [] → ∀ names context, names ≠ [] → (∀ name ∈ names, ∃ text, c.rules.get? name = some text) →
        ∃ op rules rule, c.settings.defaultOp = op.keyword ∧ names.mapM c.loadRule = .ok rules ∧
          Rule.combineAll op rules = some rule ∧
          ((∃ result,
              Command.checkIn c names c.settings.defaultOp context = .ok ⟨rule, op, result⟩) ∨
            ∃ e, Command.checkIn c names c.settings.defaultOp context = .error (.rule e) ∧
              (e.kind = .missingAttribute ∨ e.kind = .typeMismatch ∨
                e = .tooDeep c.depthLimit ∧ c.depthLimit < rule.depth ∧ 1 < names.length))) := by
  constructor
  · rw [problems_eq_nil_iff_forall, settingsProblems_eq_nil_iff_range, and_assoc]
    refine and_congr_right fun _ => and_congr_right fun _ => ?_
    refine forall_congr' fun name => forall_congr' fun text => forall_congr' fun hrule => ?_
    rw [trim_ne_nil_iff, exists_loadRule_iff hrule]
  · intro h names context hne hnames
    obtain ⟨hsettings, hrules⟩ := problems_eq_nil_iff_forall.mp h
    obtain ⟨-, op, hop⟩ := settingsProblems_eq_nil_iff.mp hsettings
    have hloaded : ∀ name ∈ names, ∃ r, c.loadRule name = .ok r ∧ r.problems = [] ∧ r.depth ≤ c.depthLimit := by
      intro name hname
      obtain ⟨text, hrule⟩ := hnames name hname
      obtain ⟨r, hr, hproblems⟩ := (exists_loadRule_iff hrule).mpr (hrules name text hrule).2
      exact ⟨r, hr, hproblems, (Rule.parse_eq_ok_iff.mp ((loadRule_eq_ok_iff hrule).mp hr)).2⟩
    obtain ⟨rules, rule, hall, hrule, hcheck⟩ := Command.checkIn_cases hop hne hloaded context
    exact ⟨op, rules, rule, hop, hall, hrule, hcheck⟩

/-- A rule as deep as the limit is too deep where it is joined with itself. -/
theorem problems_eq_nil_and_check_twice :
    ∃ c : Config, c.rules.entries = [("r", "a = 1 AND b > 2")] ∧ c.settings = { maxDepth := 2 } ∧ c.problems = [] ∧
      Command.checkIn c ["r", "r"] "AND" ∅ = .error (.rule (.tooDeep 2)) ∧
      ∃ rules rule, ["r", "r"].mapM c.loadRule = .ok rules ∧ Rule.combineAll .and rules = some rule ∧
        2 < rule.depth := by
  let c : Config := { rules := NameMap.ofList [("r", "a = 1 AND b > 2")], settings := { maxDepth := 2 } }
  have hproblems : c.problems = [] := by decide +kernel
  have hrule : c.rules.get? "r" = some "a = 1 AND b > 2" := by decide +kernel
  have hnames : ∀ name ∈ ["r", "r"], ∃ text, c.rules.get? name = some text := by
    intro name hname
    simp only [List.mem_cons, List.not_mem_nil, or_false, or_self] at hname
    exact ⟨_, hname ▸ hrule⟩
  have hfails : Command.checkIn c ["r", "r"] c.settings.defaultOp ∅ = .error (.rule (.tooDeep 2)) := rfl
  obtain ⟨op, rules, rule, hop, hrules, hcombined, ⟨result, hcheck⟩ | ⟨e, hcheck, hcause⟩⟩ :=
    (problems_eq_nil_iff_and_check c).2 hproblems ["r", "r"] ∅ (List.cons_ne_nil _ _) hnames
  · cases hfails.symm.trans hcheck
  · cases hfails.symm.trans hcheck
    obtain rfl : op = .and := by
      cases op with
      | and => rfl
      | or => exact absurd hop (by decide)
    rcases hcause with hkind | hkind | ⟨-, hdeep, -⟩
    · cases hkind
    · cases hkind
    · exact ⟨c, by decide +kernel, rfl, hproblems, hfails, rules, rule, hrules, hcombined, hdeep⟩

end Config
end AttributeRules
