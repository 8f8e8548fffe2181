import AttributeRules.Proofs.Entries
import AttributeRules.Proofs.Evaluation

/-! What an evaluation needs of its context.

Whether a comparison fails, and how, is decided by the kind of the value that its attribute has, or by there being none
(`operandError?_eq`). So contexts of one shape lead to the same errors (`evaluate_error_iff_of_sameShape`). A rule can
be evaluated in some context exactly when all its operands can be read and no attribute is ordered against literals of
both kinds; and an error that no context can mend is the first problem of the rule
(`evaluable_iff_and_first_problem`). -/

namespace AttributeRules

/-! ### Comparisons and kinds -/

/-- Does the comparator relate values of one kind only? -/
def Comparator.isOrdered : Comparator → Bool
  | .equal => false
  | _ => true

theorem Comparator.holds?_eq_none_iff {c : Comparator} {a b : Value} :
    c.holds? a b = none ↔ c.isOrdered = true ∧ a.kind ≠ b.kind := by
  cases c <;> cases a <;> cases b <;> simp [holds?, isOrdered, Value.kind]

/-- The error of a comparison with an attribute of the kind given, or with one that is missing. -/
def Comparison.error? (operand : String) (c : Comparison) : Option ValueKind → Option RuleError
  | none => some (.missingAttribute c.attributeName)
  | some actual =>
    if c.comparator.isOrdered = true ∧ actual ≠ c.literal.kind then some (.kindMismatch operand actual c.literal.kind)
    else none

theorem Comparison.error?_eq_none_iff {operand : String} {c : Comparison} {kind? : Option ValueKind} :
    c.error? operand kind? = none ↔
      ∃ actual, kind? = some actual ∧ (c.comparator.isOrdered = true → actual = c.literal.kind) := by
  cases kind? with
  | none => simp [error?]
  | some actual => simp [error?]

/-- The kind of the value that an attribute has, if it has one. -/
def Context.kind? (context : Context) (name : String) : Option ValueKind := (context.get? name).map Value.kind

/-- The context tells whether an operand fails, and how, by the kind of the attribute alone. -/
theorem operandError?_eq (context : Context) (operand : String) :
    operandError? context operand =
      match Comparison.ofText operand with
      | .error e => some e
      | .ok c => c.error? operand (context.kind? c.attributeName) := by
  unfold operandError? evaluateOperand
  cases Comparison.ofText operand with
  | error e => rfl
  | ok c =>
    simp only [Comparison.evaluate, Context.kind?]
    cases context.get? c.attributeName with
    | none => rfl
    | some actual =>
      simp only [Option.map_some, Comparison.error?]
      cases h : c.comparator.holds? actual c.literal with
      | none => rw [if_pos (Comparator.holds?_eq_none_iff.mp h)]
      | some b => 
        have : ¬ (c.comparator.isOrdered = true ∧ actual.kind ≠ c.literal.kind) := by
          rw [← Comparator.holds?_eq_none_iff, h]
          exact Option.some_ne_none b
        rw [if_neg this]

namespace Rule

/-! ### The comparisons of a rule -/

/-- The comparisons that a rule makes, from left to right, less the operands that cannot be read. -/
def comparisons (r : Rule) : List Comparison := r.operands.filterMap fun v => (Comparison.ofText v).toOption

theorem mem_comparisons {r : Rule} {c : Comparison} :
    c ∈ r.comparisons ↔ ∃ v ∈ r.operands, Comparison.ofText v = .ok c := by
  rw [comparisons, List.mem_filterMap]
  refine exists_congr fun v => and_congr_right fun _ => ?_
  cases Comparison.ofText v <;> simp [Except.toOption]

theorem mem_operands_of_mem_subtreesFrom {r : Rule} {level n : Nat} {v : String}
    (h : (n, operand v) ∈ r.subtreesFrom level) : v ∈ r.operands := by
  induction r generalizing level with
  | operand text => simpa [subtreesFrom] using congrArg Prod.snd (List.mem_singleton.mp h)
  | operator op left right ihl ihr =>
    rw [operands_operator, List.mem_append]
    rcases List.mem_cons.mp h with h | h
    · cases h
    · exact (List.mem_append.mp h).imp ihl ihr

theorem mem_operands_of_mem_visits {r : Rule} {limit : Nat} {v : String} (h : .operand v ∈ r.visits limit) :
    v ∈ r.operands := by
  obtain ⟨⟨n, s⟩, hs, hvisit⟩ := List.mem_filterMap.mp h
  simp only [visit?] at hvisit
  split at hvisit
  · cases hvisit
  · split at hvisit
    · split at hvisit
      · cases hvisit
        exact mem_operands_of_mem_subtreesFrom hs
      · cases hvisit
    · cases hvisit

/-! ### Contexts of one shape -/

/-- Each attribute that the rule compares is in both contexts, with values of one kind, or in neither. -/
def SameShape (r : Rule) (a b : Context) : Prop := ∀ c ∈ r.comparisons, a.kind? c.attributeName = b.kind? c.attributeName

instance (r : Rule) (a b : Context) : Decidable (r.SameShape a b) :=
  List.decidableBAll (fun c : Comparison => a.kind? c.attributeName = b.kind? c.attributeName) r.comparisons

section SameShape
variable {r : Rule} {a b : Context}

theorem SameShape.operandError?_eq (h : r.SameShape a b) {v : String} (hv : v ∈ r.operands) :
    operandError? a v = operandError? b v := by
  rw [AttributeRules.operandError?_eq, AttributeRules.operandError?_eq]
  cases hc : Comparison.ofText v with
  | error e => rfl
  | ok c => simp only [h c (mem_comparisons.mpr ⟨v, hv, hc⟩)]

theorem SameShape.findSome?_visits (h : r.SameShape a b) (limit : Nat) :
    (r.visits limit).findSome? (Visit.error? a limit) = (r.visits limit).findSome? (Visit.error? b limit) := by
  have hvisit : ∀ x ∈ r.visits limit, Visit.error? a limit x = Visit.error? b limit x := by
    intro x hx
    cases x with
    | operand v => exact h.operandError?_eq (mem_operands_of_mem_visits hx)
    | tooDeep s => rfl
  rw [← List.head?_filterMap, ← List.head?_filterMap, List.filterMap_congr hvisit]

theorem joined_congr {f g : String → Bool} (h : ∀ v ∈ r.operands, f v = g v) : r.joined f = r.joined g := by
  induction r with
  | operand text => exact h text (by simp)
  | operator op left right ihl ihr =>
    obtain ⟨hl, hr⟩ := forall_mem_operands_operator.mp h
    rw [joined, joined, ihl hl, ihr hr]

theorem operandHolds_congr {v : String}
    (h : ∀ c, Comparison.ofText v = .ok c → a.get? c.attributeName = b.get? c.attributeName) :
    operandHolds a v = operandHolds b v := by
  unfold operandHolds evaluateOperand
  cases hc : Comparison.ofText v with
  | error e => rfl
  | ok c => simp only [Comparison.evaluate, h c hc]

/-- In contexts of one shape a rule has the same errors, and with the same values of the attributes that it compares it
has the same results. -/
theorem evaluate_error_iff_of_sameShape (h : r.SameShape a b) (limit : Nat) :
    (∀ e, r.evaluate a limit = .error e ↔ r.evaluate b limit = .error e) ∧
      ((∀ c ∈ r.comparisons, a.get? c.attributeName = b.get? c.attributeName) →
        r.evaluate a limit = r.evaluate b limit) := by
  have hvisits := h.findSome?_visits limit
  rw [evaluate_eq_outcomeOf, evaluate_eq_outcomeOf, outcomeOf, outcomeOf, hvisits]
  constructor
  · intro e
    cases (r.visits limit).findSome? (Visit.error? b limit) <;> simp
  · intro hvalues
    have hjoined : r.joined (operandHolds a) = r.joined (operandHolds b) :=
      joined_congr fun v hv => operandHolds_congr fun c hc => hvalues c (mem_comparisons.mpr ⟨v, hv, hc⟩)
    rw [hjoined]

/-- Contexts that differ in values and in an attribute that no operand compares. -/
theorem evaluate_sameShape_of_kinds :
    (operator .or (.operand "a > 1") (.operand "b < 'm'")).SameShape
        (NameMap.ofList [("a", .integer 5), ("b", .integer 0)])
        (NameMap.ofList [("a", .integer 0), ("b", .integer 9), ("c", .text "")]) ∧
      (∀ e, (operator .or (.operand "a > 1") (.operand "b < 'm'")).evaluate
          (NameMap.ofList [("a", .integer 5), ("b", .integer 0)]) 2 = .error e ↔
        (operator .or (.operand "a > 1") (.operand "b < 'm'")).evaluate
          (NameMap.ofList [("a", .integer 0), ("b", .integer 9), ("c", .text "")]) 2 = .error e) ∧
      (operator .or (.operand "a > 1") (.operand "b < 'm'")).evaluate
          (NameMap.ofList [("a", .integer 5), ("b", .integer 0)]) 2 =
        .error (.kindMismatch "b < 'm'" .integer .text) :=
  have h : (operator .or (.operand "a > 1") (.operand "b < 'm'")).SameShape
      (NameMap.ofList [("a", .integer 5), ("b", .integer 0)])
      (NameMap.ofList [("a", .integer 0), ("b", .integer 9), ("c", .text "")]) := by decide +kernel
  ⟨h, (evaluate_error_iff_of_sameShape h 2).1, rfl⟩

end SameShape
end Rule

/-! ### Errors that no context can mend -/

/-- Does the error come from the text of an operand alone? -/
def RuleError.IsStatic (e : RuleError) : Prop := e.kind = .format ∨ e.kind = .unknownOperator

theorem Comparison.problem?_eq_none_iff {v : String} : problem? v = none ↔ ∃ c, ofText v = .ok c := by
  unfold problem?
  cases ofText v <;> simp

theorem Comparison.not_isStatic_of_error? {operand : String} {c : Comparison} {kind? : Option ValueKind} {e : RuleError}
    (h : c.error? operand kind? = some e) : ¬ e.IsStatic := by
  unfold error? at h
  split at h
  · cases h
    simp [RuleError.IsStatic, RuleError.kind]
  · split at h
    · cases h
      simp [RuleError.IsStatic, RuleError.kind]
    · cases h

theorem problem?_of_operandError?_eq_none {context : Context} {v : String} (h : operandError? context v = none) :
    Comparison.problem? v = none := by
  rw [operandError?_eq] at h
  split at h
  · cases h
  · rename_i c hc
    exact Comparison.problem?_eq_none_iff.mpr ⟨c, hc⟩

theorem problem?_of_operandError?_eq_some {context : Context} {v : String} {e : RuleError}
    (h : operandError? context v = some e) (hstatic : e.IsStatic) : Comparison.problem? v = some e := by
  rw [operandError?_eq] at h
  split at h
  · rename_i e' he
    rw [Comparison.problem?, he]
    exact h
  · exact absurd hstatic (Comparison.not_isStatic_of_error? h)

namespace Rule

/-- A walk through a rule that ends well meets no problem, and one that ends with an error which no context can mend has
met the first problem of the rule. -/
theorem findSome?_problem?_of_evaluateWithin {context : Context} {limit levels : Nat} {r : Rule} :
    (∀ b, evaluateWithin context limit levels r = .ok b → r.operands.findSome? Comparison.problem? = none) ∧
      ∀ e, evaluateWithin context limit levels r = .error e → e.IsStatic →
        r.operands.findSome? Comparison.problem? = some e := by
  induction levels generalizing r with
  | zero =>
    refine ⟨fun b h => ?_, fun e h hstatic => ?_⟩
    · cases h
    · cases h
      simp [RuleError.IsStatic, RuleError.kind] at hstatic
  | succ levels ih =>
    cases r with
    | operand text =>
      rw [evaluateWithin, operands_operand, List.findSome?_singleton]
      refine ⟨fun b h => ?_, fun e h hstatic => ?_⟩
      · have hnone : operandError? context text = none := by
          rw [operandError?, h]
        exact problem?_of_operandError?_eq_none hnone
      · exact problem?_of_operandError?_eq_some (operandError?_eq_some_iff.mpr h) hstatic
    | operator op left right =>
      obtain ⟨hlok, hlerror⟩ := ih (r := left)
      obtain ⟨hrok, hrerror⟩ := ih (r := right)
      rw [evaluateWithin, operands_operator, List.findSome?_append]
      cases hl : evaluateWithin context limit levels left with
      | error e' =>
        refine ⟨fun b h => ?_, fun e h hstatic => ?_⟩
        · cases h
        · cases h
          rw [hlerror e' hl hstatic, Option.some_or]
      | ok a =>
        rw [hlok a hl, Option.none_or]
        cases hr : evaluateWithin context limit levels right with
        | error e' =>
          refine ⟨fun b h => ?_, fun e h hstatic => ?_⟩
          · cases h
          · cases h
            exact hrerror e' hr hstatic
        | ok b =>
          refine ⟨fun _ _ => hrok b hr, fun e h => ?_⟩
          cases h

/-! ### Rules that some context evaluates -/

/-- Is the attribute ordered against a literal of the kind? -/
def Orders (r : Rule) (name : String) (kind : ValueKind) : Prop :=
  ∃ c ∈ r.comparisons, c.attributeName = name ∧ c.comparator.isOrdered = true ∧ c.literal.kind = kind

instance (r : Rule) (name : String) (kind : ValueKind) : Decidable (r.Orders name kind) :=
  List.decidableBEx
    (fun c : Comparison => c.attributeName = name ∧ c.comparator.isOrdered = true ∧ c.literal.kind = kind) r.comparisons

/-- A value that suits every comparison of the attribute, if any value does. -/
def sampleValue (r : Rule) (name : String) : Value := if r.Orders name .text then .text "" else .integer 0

/-- A context in which the rule can be evaluated, if there is any. -/
def sampleContext (r : Rule) : Context :=
  NameMap.ofList ((r.comparisons.map (·.attributeName)).map fun name => (name, r.sampleValue name))

section Evaluable
variable {r : Rule}

theorem kind?_sampleContext {c : Comparison} (hc : c ∈ r.comparisons) :
    r.sampleContext.kind? c.attributeName = some (r.sampleValue c.attributeName).kind := by
  rw [Context.kind?, sampleContext,
    NameMap.get?_ofList_graph r.sampleValue (List.mem_map_of_mem (f := Comparison.attributeName) hc), Option.map_some]

theorem kind_sampleValue (hkinds : ¬ ∃ name, r.Orders name .integer ∧ r.Orders name .text) {c : Comparison}
    (hc : c ∈ r.comparisons) (hordered : c.comparator.isOrdered = true) :
    (r.sampleValue c.attributeName).kind = c.literal.kind := by
  have horders : r.Orders c.attributeName c.literal.kind := ⟨c, hc, rfl, hordered, rfl⟩
  unfold sampleValue
  cases hkind : c.literal.kind with
  | integer =>
    rw [hkind] at horders
    rw [if_neg fun htext => hkinds ⟨c.attributeName, horders, htext⟩]
    rfl
  | text =>
    rw [hkind] at horders
    rw [if_pos horders]
    rfl

theorem problems_eq_nil_iff : r.problems = [] ↔ ∀ v ∈ r.operands, Comparison.problem? v = none :=
  List.filterMap_eq_nil_iff

theorem evaluate_sampleContext {limit : Nat} (hdepth : r.depth ≤ limit) (hproblems : r.problems = [])
    (hkinds : ¬ ∃ name, r.Orders name .integer ∧ r.Orders name .text) :
    r.evaluate r.sampleContext limit = .ok (r.joined (operandHolds r.sampleContext)) := by
  have hnone : r.operands.findSome? (operandError? r.sampleContext) = none := by
    rw [List.findSome?_eq_none_iff]
    intro v hv
    obtain ⟨c, hc⟩ := Comparison.problem?_eq_none_iff.mp (problems_eq_nil_iff.mp hproblems v hv)
    have hmem : c ∈ r.comparisons := mem_comparisons.mpr ⟨v, hv, hc⟩
    simp only [operandError?_eq, hc]
    rw [kind?_sampleContext hmem, Comparison.error?_eq_none_iff]
    exact ⟨_, rfl, kind_sampleValue hkinds hmem⟩
  rw [evaluate_of_depth_le hdepth, hnone]

/-- In a context that evaluates the rule, each operand can be read and each attribute has a kind that suits. -/
theorem error?_eq_none_of_evaluate {context : Context} {limit : Nat} {b : Bool} (h : r.evaluate context limit = .ok b)
    {c : Comparison} (hc : c ∈ r.comparisons) : ∃ v, c.error? v (context.kind? c.attributeName) = none := by
  obtain ⟨v, hv, hread⟩ := mem_comparisons.mp hc
  rw [evaluate_of_depth_le (depth_le_of_evaluate h)] at h
  split at h
  · cases h
  · rename_i hnone
    have := List.findSome?_eq_none_iff.mp hnone v hv
    rw [operandError?_eq, hread] at this
    exact ⟨v, this⟩

/-- Some context evaluates a rule within its depth exactly when it has no problem and no attribute is ordered against
literals of both kinds. An error that no context can mend is the first problem of the rule. -/
theorem evaluable_iff_and_first_problem (r : Rule) :
    (∀ limit, r.depth ≤ limit →
      ((∃ context b, r.evaluate context limit = .ok b) ↔
        r.problems = [] ∧ ¬ ∃ name, r.Orders name .integer ∧ r.Orders name .text)) ∧
      ∀ context limit e, r.evaluate context limit = .error e → e.kind = .format ∨ e.kind = .unknownOperator →
        r.problems.head? = some e := by
  refine ⟨fun limit hdepth => ⟨?_, fun ⟨hproblems, hkinds⟩ => ?_⟩, fun context limit e h hstatic => ?_⟩
  · rintro ⟨context, b, h⟩
    constructor
    · have hnone := findSome?_problem?_of_evaluateWithin.1 b h
      exact problems_eq_nil_iff.mpr (List.findSome?_eq_none_iff.mp hnone)
    · rintro ⟨name, ⟨c, hc, rfl, hcordered, hcinteger⟩, ⟨d, hd, hname, hdordered, hdtext⟩⟩
      obtain ⟨v, hv⟩ := error?_eq_none_of_evaluate h hc
      obtain ⟨w, hw⟩ := error?_eq_none_of_evaluate h hd
      obtain ⟨actual, hactual, hsuits⟩ := Comparison.error?_eq_none_iff.mp hv
      obtain ⟨actual', hactual', hsuits'⟩ := Comparison.error?_eq_none_iff.mp hw
      have hsame : actual = actual' := by
        rw [hname, hactual] at hactual'
        exact Option.some.inj hactual'
      have hinteger : actual = .integer := (hsuits hcordered).trans hcinteger
      have htext : actual = .text := hsame.trans ((hsuits' hdordered).trans hdtext)
      rw [hinteger] at htext
      cases htext
  · exact ⟨r.sampleContext, _, evaluate_sampleContext hdepth hproblems hkinds⟩
  · rw [problems, List.head?_filterMap]
    exact findSome?_problem?_of_evaluateWithin.2 e h hstatic

/-- An attribute that is ordered against literals of both kinds, and an operand whose comparator is unknown behind one
that can be evaluated. -/
theorem not_evaluable_of_both_kinds :
    (operator .and (.operand "a > 1") (.operand "a < x")).depth ≤ 2 ∧
      (¬ ∃ context b, (operator .and (.operand "a > 1") (.operand "a < x")).evaluate context 2 = .ok b) ∧
      (operator .or (.operand "a > 1") (.operand "b ~ x")).evaluate (NameMap.ofList [("a", .integer 5)]) 2 =
        .error (.unknownComparator "~" "b ~ x") ∧
      (RuleError.unknownComparator "~" "b ~ x").kind = .unknownOperator ∧
      (operator .or (.operand "a > 1") (.operand "b ~ x")).problems.head? = some (.unknownComparator "~" "b ~ x") :=
  have hdepth : (operator .and (.operand "a > 1") (.operand "a < x")).depth ≤ 2 := by decide
  have herror : (operator .or (.operand "a > 1") (.operand "b ~ x")).evaluate (NameMap.ofList [("a", .integer 5)]) 2 =
      .error (.unknownComparator "~" "b ~ x") := rfl
  ⟨hdepth,
    fun h => (((evaluable_iff_and_first_problem _).1 2 hdepth).mp h).2 ⟨"a", by decide +kernel, by decide +kernel⟩,
    herror, rfl, (evaluable_iff_and_first_problem _).2 _ 2 _ herror (.inr rfl)⟩

end Evaluable
end Rule
end AttributeRules
