import AttributeRules.Evaluation
import AttributeRules.Proofs.Reading

/-! What an evaluation comes to.

The outcome of an evaluation is told by a list: from left to right, the operands within the limit and the subtrees
right below it, which count as errors. The first error in the list is the outcome, whatever the other side of a
connective comes to; without one, the rule is no deeper than the limit and the results of its operands are joined
(`evaluate_eq_outcome`). -/

namespace AttributeRules

/-- The error of an operand, if it has one. -/
def operandError? (context : Context) (operand : String) : Option RuleError :=
  match evaluateOperand context operand with
  | .ok _ => none
  | .error e => some e

/-- The result of an operand; one without a result counts as false. -/
def operandHolds (context : Context) (operand : String) : Bool :=
  match evaluateOperand context operand with
  | .ok b => b
  | .error _ => false

theorem operandError?_eq_none_iff {context : Context} {operand : String} :
    operandError? context operand = none ↔
      evaluateOperand context operand = .ok (operandHolds context operand) := by
  unfold operandError? operandHolds
  cases evaluateOperand context operand <;> simp

theorem operandError?_eq_some_iff {context : Context} {operand : String} {e : RuleError} :
    operandError? context operand = some e ↔ evaluateOperand context operand = .error e := by
  unfold operandError?
  cases evaluateOperand context operand <;> simp

theorem Comparison.ofText_ne_tooDeep (operand : String) (limit : Nat) :
    Comparison.ofText operand ≠ .error (.tooDeep limit) := by
  unfold Comparison.ofText
  split
  · split
    · simp
    · split <;> simp
  · simp

theorem evaluateOperand_ne_tooDeep (context : Context) (operand : String) (limit : Nat) :
    evaluateOperand context operand ≠ .error (.tooDeep limit) := by
  unfold evaluateOperand
  split
  · unfold Comparison.evaluate
    split
    · simp
    · split <;> simp
  · rename_i e he
    intro h
    cases h
    exact Comparison.ofText_ne_tooDeep operand limit he

/-! ### The list -/

/-- What an evaluation comes to: an operand, or a subtree that lies too deep. -/
inductive Visit
  | operand (text : String)
  | tooDeep (subtree : Rule)

/-- The error that a visit ends an evaluation with, if it does. -/
def Visit.error? (context : Context) (limit : Nat) : Visit → Option RuleError
  | .operand text => operandError? context text
  | .tooDeep _ => some (.tooDeep limit)

namespace Rule

/-- The subtrees of a rule that has the level given, with their levels, parents first and left before right. -/
def subtreesFrom (level : Nat) : Rule → List (Nat × Rule)
  | .operand text => [(level, .operand text)]
  | .operator op left right =>
    (level, .operator op left right) :: (left.subtreesFrom (level + 1) ++ right.subtreesFrom (level + 1))

/-- What a subtree at a level is to an evaluation within a limit: operands count down to the limit, and all subtrees
right below it. -/
def visit? (limit : Nat) : Nat × Rule → Option Visit
  | (level, s) =>
    if level = limit + 1 then some (.tooDeep s)
    else
      match s with
      | .operand text => if level ≤ limit then some (.operand text) else none
      | .operator .. => none

/-- What an evaluation within a limit comes to in a rule that has the level given. -/
def visitsFrom (limit level : Nat) (r : Rule) : List Visit := (r.subtreesFrom level).filterMap (visit? limit)

/-- What an evaluation within a limit comes to, from left to right; the levels count from one. -/
def visits (limit : Nat) (r : Rule) : List Visit := r.visitsFrom limit 1

/-- The results of the operands joined as the rule says. -/
def joined (result : String → Bool) : Rule → Bool
  | .operand text => result text
  | .operator op left right => op.apply (left.joined result) (right.joined result)

/-- The first error of the visits, or the results of the operands joined if there is none. -/
def outcomeOf (context : Context) (limit : Nat) (r : Rule) (vs : List Visit) : Except RuleError Bool :=
  match vs.findSome? (Visit.error? context limit) with
  | some e => .error e
  | none => .ok (r.joined (operandHolds context))

section Visits
variable {limit level : Nat}

theorem visitsFrom_operand {text : String} (h : level ≤ limit) :
    (operand text).visitsFrom limit level = [.operand text] := by
  have hne : level ≠ limit + 1 := by omega
  simp [visitsFrom, subtreesFrom, visit?, hne, h]

theorem visitsFrom_operator {op : Connective} {left right : Rule} (h : level ≤ limit) :
    (operator op left right).visitsFrom limit level =
      left.visitsFrom limit (level + 1) ++ right.visitsFrom limit (level + 1) := by
  have hne : level ≠ limit + 1 := by omega
  simp [visitsFrom, subtreesFrom, visit?, hne]

theorem visitsFrom_below (h : limit + 1 < level) (r : Rule) : r.visitsFrom limit level = [] := by
  induction r generalizing level with
  | operand text =>
    have hne : level ≠ limit + 1 := by omega
    have hlt : ¬ level ≤ limit := by omega
    simp [visitsFrom, subtreesFrom, visit?, hne, hlt]
  | operator op left right ihl ihr =>
    have hne : level ≠ limit + 1 := by omega
    have hl := ihl (show limit + 1 < level + 1 by omega)
    have hr := ihr (show limit + 1 < level + 1 by omega)
    unfold visitsFrom at hl hr
    simp [visitsFrom, subtreesFrom, visit?, hne, hl, hr]

theorem visitsFrom_limit_succ (r : Rule) : r.visitsFrom limit (limit + 1) = [.tooDeep r] := by
  cases r with
  | operand text => simp [visitsFrom, subtreesFrom, visit?]
  | operator op left right =>
    have hl := visitsFrom_below (Nat.lt_succ_self (limit + 1)) left
    have hr := visitsFrom_below (Nat.lt_succ_self (limit + 1)) right
    unfold visitsFrom at hl hr
    simp [visitsFrom, subtreesFrom, visit?, hl, hr]

/-- Of a rule within the limit, exactly the operands are visited. -/
theorem visitsFrom_of_depth_le {r : Rule} (h : level + r.depth ≤ limit + 1) :
    r.visitsFrom limit level = r.operands.map .operand := by
  induction r generalizing level with
  | operand text =>
    rw [depth] at h
    rw [visitsFrom_operand (by omega), operands_operand, List.map_singleton]
  | operator op left right ihl ihr =>
    rw [depth] at h
    rw [visitsFrom_operator (by omega), ihl (by omega), ihr (by omega), operands_operator, List.map_append]

/-- A rule that is too deep is found to be so, if nothing else is found before. -/
theorem depth_le_of_findSome? {context : Context} {r : Rule} (hlevel : level ≤ limit + 1)
    (h : (r.visitsFrom limit level).findSome? (Visit.error? context limit) = none) : level + r.depth ≤ limit + 1 := by
  induction r generalizing level with
  | operand text =>
    rcases Nat.lt_or_eq_of_le hlevel with hlt | rfl
    · rw [depth]
      omega
    · rw [visitsFrom_limit_succ] at h
      cases h
  | operator op left right ihl ihr =>
    -- At the first level beyond the limit the subtree itself is an error; above it both sides are searched.
    rcases Nat.lt_or_eq_of_le hlevel with hlt | rfl
    · rw [visitsFrom_operator (by omega), List.findSome?_append, Option.or_eq_none_iff] at h
      have hl := ihl (by omega) h.1
      have hr := ihr (by omega) h.2
      rw [depth]
      omega
    · rw [visitsFrom_limit_succ] at h
      cases h

/-! ### The evaluation -/

/-- Evaluating with some levels left gives the outcome of what is visited from the level reached. -/
theorem evaluateWithin_eq {context : Context} {levels : Nat} (h : level + levels = limit + 1) (r : Rule) :
    evaluateWithin context limit levels r = outcomeOf context limit r (r.visitsFrom limit level) := by
  induction levels generalizing level r with
  | zero =>
    obtain rfl : level = limit + 1 := h
    rw [visitsFrom_limit_succ]
    rfl
  | succ levels ih =>
    cases r with
    | operand text =>
      rw [visitsFrom_operand (by omega), evaluateWithin, outcomeOf, List.findSome?_singleton, Visit.error?, joined]
      unfold operandError? operandHolds
      cases evaluateOperand context text <;> rfl
    | operator op left right =>
      have hl := ih (show level + 1 + levels = limit + 1 by omega) left
      have hr := ih (show level + 1 + levels = limit + 1 by omega) right
      rw [visitsFrom_operator (by omega), evaluateWithin, hl, hr, outcomeOf, outcomeOf, outcomeOf,
        List.findSome?_append, joined]
      cases (left.visitsFrom limit (level + 1)).findSome? (Visit.error? context limit) with
      | some e => rfl
      | none => cases (right.visitsFrom limit (level + 1)).findSome? (Visit.error? context limit) <;> rfl

end Visits

theorem evaluate_eq_outcomeOf (context : Context) (limit : Nat) (r : Rule) :
    r.evaluate context limit = outcomeOf context limit r (r.visits limit) :=
  evaluateWithin_eq (Nat.add_comm 1 limit) r

theorem findSome?_map_operand {context : Context} {limit : Nat} {vs : List String} :
    (vs.map Visit.operand).findSome? (Visit.error? context limit) = vs.findSome? (operandError? context) := by
  rw [List.findSome?_map]
  rfl

theorem evaluate_of_depth_le {context : Context} {limit : Nat} {r : Rule} (h : r.depth ≤ limit) :
    r.evaluate context limit =
      match r.operands.findSome? (operandError? context) with
      | some e => .error e
      | none => .ok (r.joined (operandHolds context)) := by
  rw [evaluate_eq_outcomeOf, outcomeOf, visits, visitsFrom_of_depth_le (by omega), findSome?_map_operand]

theorem depth_le_of_evaluate {context : Context} {limit : Nat} {r : Rule} {b : Bool}
    (h : r.evaluate context limit = .ok b) : r.depth ≤ limit := by
  rw [evaluate_eq_outcomeOf, outcomeOf] at h
  split at h
  · cases h
  · rename_i hnone
    have := depth_le_of_findSome? (by omega) hnone
    omega

theorem evaluate_ne_tooDeep {context : Context} {limit : Nat} {r : Rule} (h : r.depth ≤ limit) (n : Nat) :
    r.evaluate context limit ≠ .error (.tooDeep n) := by
  rw [evaluate_of_depth_le h]
  intro heq
  split at heq
  · rename_i e he
    cases heq
    obtain ⟨v, -, hv⟩ := List.exists_of_findSome?_eq_some he
    exact evaluateOperand_ne_tooDeep context v n (operandError?_eq_some_iff.mp hv)
  · cases heq

/-- An evaluation ends with the first error that it comes to, and without one every operand has a result and the
results are joined. So a rule that is too deep has no result, and one that was read within the limit is not refused
for its depth. -/
theorem evaluate_eq_outcome (context : Context) (limit : Nat) (r : Rule) :
    (r.evaluate context limit =
        match (r.visits limit).findSome? (Visit.error? context limit) with
        | some e => .error e
        | none => .ok (r.joined (operandHolds context))) ∧
      ((r.visits limit).findSome? (Visit.error? context limit) = none →
        r.depth ≤ limit ∧
          ∀ v ∈ r.operands, evaluateOperand context v = .ok (operandHolds context v)) ∧
      (limit < r.depth → ∀ b, r.evaluate context limit ≠ .ok b) ∧
      (∀ text, parse limit text = .ok r → ∀ n, r.evaluate context limit ≠ .error (.tooDeep n)) := by
  refine ⟨evaluate_eq_outcomeOf context limit r, fun hnone => ?_, fun hdeep b hb => ?_, fun text hparse n => ?_⟩
  · have hdepth := depth_le_of_findSome? (by omega) hnone
    refine ⟨by omega, fun v hv => ?_⟩
    rw [visits, visitsFrom_of_depth_le hdepth, findSome?_map_operand, List.findSome?_eq_none_iff] at hnone
    exact operandError?_eq_none_iff.mp (hnone v hv)
  · have := depth_le_of_evaluate hb
    omega
  · exact evaluate_ne_tooDeep (parse_eq_ok_iff.mp hparse).2 n

/-- On the way to a subtree that is too deep, an operand fails first; with one level more the rule is read, and its
evaluation cannot fail by depth. -/
theorem evaluate_operand_before_depth :
    (operator .and (.operand "a = 1") (.operator .or (.operand "b = 2") (.operand "c = 3"))).evaluate ∅ 2 =
        .error (.missingAttribute "a") ∧
      2 < (operator .and (.operand "a = 1") (.operator .or (.operand "b = 2") (.operand "c = 3"))).depth ∧
      (∀ b, (operator .and (.operand "a = 1") (.operator .or (.operand "b = 2") (.operand "c = 3"))).evaluate ∅ 2 ≠
        .ok b) ∧
      parse 3 "a = 1 AND b = 2 OR c = 3" =
        .ok (operator .and (.operand "a = 1") (.operator .or (.operand "b = 2") (.operand "c = 3"))) ∧
      ∀ n, (operator .and (.operand "a = 1") (.operator .or (.operand "b = 2") (.operand "c = 3"))).evaluate ∅ 3 ≠
        .error (.tooDeep n) :=
  have hdepth : 2 < (operator .and (.operand "a = 1") (.operator .or (.operand "b = 2") (.operand "c = 3"))).depth := by
    decide
  ⟨rfl, hdepth, (evaluate_eq_outcome ∅ 2 _).2.2.1 hdepth, rfl,
    (evaluate_eq_outcome ∅ 3 _).2.2.2 "a = 1 AND b = 2 OR c = 3" rfl⟩

end Rule
end AttributeRules
