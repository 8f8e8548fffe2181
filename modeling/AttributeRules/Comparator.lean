import AttributeRules.Value

/-! The three comparators of an operand.

Equality is defined for any two values and false across kinds. The other two need values of one kind:
integers compare by size, texts by their characters. -/

namespace AttributeRules

/-- How an operand compares the value of an attribute with its literal. -/
inductive Comparator
  | greater
  | less
  | equal
  deriving DecidableEq, Repr

namespace Comparator

def sign : Comparator → String
  | .greater => ">"
  | .less => "<"
  | .equal => "="

def ofText? (s : String) : Option Comparator :=
  if s = ">" then some .greater else if s = "<" then some .less else if s = "=" then some .equal else none

/-- Does the comparison hold? An ordered comparison across kinds has no answer. -/
def holds? : Comparator → Value → Value → Option Bool
  | .equal, a, b => some (decide (a = b))
  | .greater, .integer a, .integer b => some (decide (b < a))
  | .greater, .text a, .text b => some (decide (b < a))
  | .less, .integer a, .integer b => some (decide (a < b))
  | .less, .text a, .text b => some (decide (a < b))
  | _, _, _ => none

@[simp] theorem ofText?_sign (c : Comparator) : ofText? c.sign = some c := by
  cases c <;> decide +kernel

end Comparator
end AttributeRules
