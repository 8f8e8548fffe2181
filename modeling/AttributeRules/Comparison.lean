import AttributeRules.Comparator
import AttributeRules.RuleError
import AttributeRules.Text.Blank

/-! Comparisons, which are what the text of an operand means.

An operand has three words: an attribute, a comparator and a literal. A numeral is an integer literal; any
other word is a text, less one quote at each end. Faults are found in the order number of words, range of
the literal, comparator. -/

namespace AttributeRules

/-- A comparison of the value of an attribute with a literal. -/
structure Comparison where
  attributeName : String
  comparator : Comparator
  literal : Value
  deriving DecidableEq, Repr

namespace Comparison

/-- Drops one single quote in front. -/
def dropQuote : List Char → List Char
  | '\'' :: rest => rest
  | s => s

/-- Drops at most one single quote in front and then at most one at the end. -/
def dropQuotes (s : List Char) : List Char := (dropQuote (dropQuote s).reverse).reverse

/-- Reads the literal of an operand; none is a numeral of $2^{63}$ or more. -/
def readLiteral? (word : List Char) : Option Value :=
  if Text.isNumeral word then
    let n := Text.numeralValue word
    if n < 0x8000000000000000 then some (.integer (Int64.ofNat n)) else none
  else some (.text (String.ofList (dropQuotes word)))

def ofText (operand : String) : Except RuleError Comparison :=
  match Text.words operand.toList with
  | [name, sign, literal] =>
    match readLiteral? literal with
    | none => .error (.malformedOperand operand (.outOfRange (String.ofList literal)))
    | some value =>
      match Comparator.ofText? (String.ofList sign) with
      | none => .error (.unknownComparator (String.ofList sign) operand)
      | some comparator => .ok ⟨String.ofList name, comparator, value⟩
  | ws => .error (.malformedOperand operand (.wordCount ws.length))

/-- The error that a text is refused with, if it is no comparison. -/
def problem? (operand : String) : Option RuleError :=
  match ofText operand with
  | .ok _ => none
  | .error e => some e

end Comparison
end AttributeRules
