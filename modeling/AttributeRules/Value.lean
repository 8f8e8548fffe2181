import AttributeRules.NameMap
import AttributeRules.Text.Decimal

/-! Attribute values, signed 64 bit integers and texts, and contexts, which give attributes their values. -/

namespace AttributeRules

/-- A value that an attribute has, or that an operand compares it with. -/
inductive Value
  | integer (n : Int64)
  | text (s : String)
  deriving DecidableEq, Repr

/-- The two kinds of values, which no order relates. -/
inductive ValueKind
  | integer
  | text
  deriving DecidableEq, Repr

/-- The word for a kind in messages. -/
def ValueKind.name : ValueKind → String
  | .integer => "integer"
  | .text => "text"

namespace Value

def kind : Value → ValueKind
  | .integer _ => .integer
  | .text _ => .text

/-- The written form of a value, as it stands in an operand: a text has a single quote at each end. -/
def written : Value → String
  | .integer n => String.ofList (Text.integerText n.toInt)
  | .text s => String.ofList ('\'' :: s.toList ++ ['\''])

end Value

/-- The values that rules are evaluated against. -/
abbrev Context := NameMap Value

end AttributeRules
