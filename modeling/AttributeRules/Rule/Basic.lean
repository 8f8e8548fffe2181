import AttributeRules.Comparison
import AttributeRules.Connective

/-! Rules: trees of operands joined by connectives.

A leaf keeps the text of its operand as it stands; only checking and evaluation look inside. -/

namespace AttributeRules

/-- A rule: an operand, or two rules joined by a connective. -/
inductive Rule
  | operand (text : String)
  | operator (op : Connective) (left right : Rule)
  deriving DecidableEq, Repr

namespace Rule

/-- The depth that is allowed where no limit is given. -/
def defaultMaxDepth : Nat := 256

def isOperand : Rule → Bool
  | .operand _ => true
  | .operator .. => false

/-- The number of levels of a rule; an operand has one. -/
def depth : Rule → Nat
  | .operand _ => 1
  | .operator _ left right => 1 + max left.depth right.depth

/-- The operands of a rule, from left to right, in front of a list. -/
def operandsThen : Rule → List String → List String
  | .operand text, rest => text :: rest
  | .operator _ left right, rest => left.operandsThen (right.operandsThen rest)

/-- The operands of a rule, from left to right. -/
def operands (r : Rule) : List String := r.operandsThen []

/-- Joins the rules of a list from the left, so that the first one ends up deepest. -/
def combineAll (op : Connective) : List Rule → Option Rule
  | [] => none
  | first :: rest => some (rest.foldl (.operator op) first)

/-- The operands that no context can make evaluate, as errors from left to right. -/
def problems (r : Rule) : List RuleError := r.operands.filterMap Comparison.problem?

/-! ### Small laws -/

theorem depth_pos (r : Rule) : 0 < r.depth := by
  cases r <;> simp only [depth] <;> omega

theorem operandsThen_eq (r : Rule) (rest : List String) : r.operandsThen rest = r.operands ++ rest := by
  induction r generalizing rest with
  | operand text => rfl
  | operator op left right ihl ihr =>
    simp only [operands, operandsThen]
    rw [ihl, ihr, ihl (right.operandsThen []), ihr [], List.append_nil, List.append_assoc]

@[simp] theorem operands_operand (text : String) : (operand text).operands = [text] := rfl

@[simp] theorem operands_operator (op : Connective) (left right : Rule) :
    (operator op left right).operands = left.operands ++ right.operands := by
  rw [operands, operandsThen, operandsThen_eq, operandsThen_eq, List.append_nil]

theorem forall_mem_operands_operator {p : String → Prop} {op : Connective} {left right : Rule} :
    (∀ v ∈ (operator op left right).operands, p v) ↔
      (∀ v ∈ left.operands, p v) ∧ ∀ v ∈ right.operands, p v := by
  rw [operands_operator, List.forall_mem_append]

end Rule
end AttributeRules
