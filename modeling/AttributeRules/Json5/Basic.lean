import AttributeRules.Json5.Numeral

/-! JSON5 values as they are written. -/

namespace AttributeRules

/-- A JSON5 value. A text or name whose escapes leave a surrogate unpaired has no content; that is an error
only where it is used. -/
inductive Json5
  | null
  | bool (b : Bool)
  | number (n : Json5.Numeral)
  | text (content : Option String)
  | array (items : List Json5)
  | object (members : List (Option String × Json5))

namespace Json5

mutual

/-- Can the value be read where nothing is known about its type? -/
def isReadable : Json5 → Bool
  | .null => true
  | .bool _ => true
  | .number n => n.isReadable
  | .text content => content.isSome
  | .array items => areReadable items
  | .object members => membersReadable members

def areReadable : List Json5 → Bool
  | [] => true
  | item :: rest => item.isReadable && areReadable rest

def membersReadable : List (Option String × Json5) → Bool
  | [] => true
  | (name, value) :: rest => name.isSome && value.isReadable && membersReadable rest

end

end Json5
end AttributeRules
