/-! What is reported of an error: its kind, which has a stable name and an exit code of its own, and a message. -/

namespace AttributeRules

inductive ErrorKind
  /-- Any error that has no kind of its own, such as a file that cannot be written. -/
  | general
  /-- An operand is not an attribute, a comparator and a value. -/
  | format
  | unknownOperator
  /-- A connective is neither of the two keywords. -/
  | invalidOperator
  | missingAttribute
  /-- Values of different kinds cannot be ordered. -/
  | typeMismatch
  | recursionLimit
  | invalidArguments
  /-- The configuration cannot be read, changed or accepted. -/
  | config
  | ruleNotFound
  deriving DecidableEq, Repr

namespace ErrorKind

def name : ErrorKind → String
  | .general => "error"
  | .format => "format"
  | .unknownOperator => "unknown_operator"
  | .invalidOperator => "invalid_operator"
  | .missingAttribute => "missing_attribute"
  | .typeMismatch => "type_mismatch"
  | .recursionLimit => "recursion_limit"
  | .invalidArguments => "invalid_args"
  | .config => "config"
  | .ruleNotFound => "rule_not_found"

/-- The exit code of a kind, from 1 to 10; a success has exit code 0. -/
def exitCode : ErrorKind → Nat
  | .general => 1
  | .format => 2
  | .unknownOperator => 3
  | .invalidOperator => 4
  | .missingAttribute => 5
  | .typeMismatch => 6
  | .recursionLimit => 7
  | .invalidArguments => 8
  | .config => 9
  | .ruleNotFound => 10

theorem exitCode_pos (k : ErrorKind) : 0 < k.exitCode := by
  cases k <;> decide

end ErrorKind

/-- The report of an error: its kind, its message and what may have been meant instead. -/
structure Failure where
  kind : ErrorKind
  message : String
  suggestions : List String := []
  deriving DecidableEq, Repr

def Failure.exitCode (f : Failure) : Nat := f.kind.exitCode

end AttributeRules
