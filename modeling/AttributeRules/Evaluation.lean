import AttributeRules.Rule.Basic

/-! Evaluating rules.

Both sides of a connective are always evaluated, the left one first, so that no error is hidden by the result
of the other side. -/

namespace AttributeRules

/-- Evaluates a comparison that was read from an operand. -/
def Comparison.evaluate (context : Context) (operand : String) (c : Comparison) : Except RuleError Bool :=
  match context.get? c.attributeName with
  | none => .error (.missingAttribute c.attributeName)
  | some actual =>
    match c.comparator.holds? actual c.literal with
    | some result => .ok result
    | none => .error (.kindMismatch operand actual.kind c.literal.kind)

def evaluateOperand (context : Context) (operand : String) : Except RuleError Bool :=
  match Comparison.ofText operand with
  | .ok c => c.evaluate context operand
  | .error e => .error e

namespace Rule

/-- Evaluates a rule of which so many levels may still be entered. -/
def evaluateWithin (context : Context) (limit : Nat) : Nat → Rule → Except RuleError Bool
  | 0, _ => .error (.tooDeep limit)
  | _ + 1, .operand text => evaluateOperand context text
  | levels + 1, .operator op left right =>
    match evaluateWithin context limit levels left with
    | .error e => .error e
    | .ok a =>
      match evaluateWithin context limit levels right with
      | .error e => .error e
      | .ok b => .ok (op.apply a b)

/-- Evaluates a rule; one deeper than the limit is an error where the walk gets too deep. -/
def evaluate (context : Context) (limit : Nat) (r : Rule) : Except RuleError Bool :=
  evaluateWithin context limit limit r

end Rule
end AttributeRules
