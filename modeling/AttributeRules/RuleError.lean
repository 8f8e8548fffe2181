import AttributeRules.Failure
import AttributeRules.Value

/-! What can go wrong with a rule.

Reading a rule fails only by its depth. All other errors arise when a connective is read, or when operands
are evaluated or checked. -/

namespace AttributeRules

/-- Why a text is no comparison. -/
inductive OperandFault
  | wordCount (count : Nat)
  /-- Its third word is a numeral beyond the signed 64 bit range. -/
  | outOfRange (numeral : String)
  deriving DecidableEq, Repr

/-- An error of reading, combining or evaluating rules. -/
inductive RuleError
  | malformedOperand (operand : String) (fault : OperandFault)
  /-- The second word of an operand is no comparator. -/
  | unknownComparator (comparator operand : String)
  | unknownConnective (text : String)
  | missingAttribute (name : String)
  /-- An ordered comparison of an integer and a text. -/
  | kindMismatch (operand : String) (actual expected : ValueKind)
  | tooDeep (limit : Nat)
  deriving DecidableEq, Repr

/-- The reason that the message of a malformed operand ends with. -/
def OperandFault.message : OperandFault → String
  | .wordCount count => s!"expected 'attribute comparator value', got {count} token(s)"
  | .outOfRange numeral => s!"integer '{numeral}' out of range"

namespace RuleError

def kind : RuleError → ErrorKind
  | .malformedOperand .. => .format
  | .unknownComparator .. => .unknownOperator
  | .unknownConnective _ => .invalidOperator
  | .missingAttribute _ => .missingAttribute
  | .kindMismatch .. => .typeMismatch
  | .tooDeep _ => .recursionLimit

def message : RuleError → String
  | .malformedOperand operand fault =>
    let reason := fault.message
    s!"invalid operand format: '{operand}': {reason}"
  | .unknownComparator comparator operand => s!"unknown operator '{comparator}' in operand '{operand}'"
  | .unknownConnective text => s!"invalid operator: '{text}', use 'AND' or 'OR'"
  | .missingAttribute name => s!"missing attribute '{name}' in evaluation context"
  | .kindMismatch operand actual expected =>
    let (left, right) := (actual.name, expected.name)
    s!"type mismatch in '{operand}': cannot compare {left} with {right}"
  | .tooDeep limit => s!"rule nesting exceeds maximum depth of {limit}"

def toFailure (e : RuleError) : Failure := ⟨e.kind, e.message, []⟩

end RuleError
end AttributeRules
