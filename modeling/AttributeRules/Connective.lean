import AttributeRules.RuleError

/-! The two connectives that join rules. -/

namespace AttributeRules

inductive Connective
  | and
  | or
  deriving DecidableEq, Repr

namespace Connective

/-- The keyword of a connective, in capitals only. -/
def keyword : Connective → String
  | .and => "AND"
  | .or => "OR"

/-- Joins the results of two sides. -/
def apply : Connective → Bool → Bool → Bool
  | .and, left, right => left && right
  | .or, left, right => left || right

/-- Reads a text that is exactly a keyword. -/
def ofText? (s : String) : Option Connective :=
  if s = "AND" then some .and else if s = "OR" then some .or else none

def ofText (s : String) : Except RuleError Connective :=
  match ofText? s with
  | some op => .ok op
  | none => .error (.unknownConnective s)

/-- The connective whose keyword a text starts with. -/
def ofStart? : List Char → Option Connective
  | 'A' :: 'N' :: 'D' :: _ => some .and
  | 'O' :: 'R' :: _ => some .or
  | _ => none

theorem ofStart?_keyword (op : Connective) (rest : List Char) : ofStart? (op.keyword.toList ++ rest) = some op := by
  cases op <;> rfl

@[simp] theorem ofText?_keyword (op : Connective) : ofText? op.keyword = some op := by
  cases op <;> rfl

theorem ofText?_eq_some_iff {s : String} {op : Connective} : ofText? s = some op ↔ s = op.keyword := by
  constructor
  · intro h
    unfold ofText? at h
    split at h
    · rename_i hs
      cases h
      exact hs
    · split at h
      · rename_i hs
        cases h
        exact hs
      · cases h
  · rintro rfl
    exact ofText?_keyword op

end Connective
end AttributeRules
