import AttributeRules.Config.Basic
import AttributeRules.Json5.Reader

/-! Reading configurations from JSON5.

A record is an object or an array of its fields in order. Fields that are missing take their defaults; a field
may not be repeated, and other members of the object only have to be readable. -/

namespace AttributeRules

namespace Json5

/-- The fields of a record that are given, out of those it can have. -/
def fields? (names : List String) : Json5 → Option (List (String × Json5))
  | .array items => some (names.zip items)
  | .object members => do
    let members ← members.mapM fun (name, value) => name.map (·, value)
    let (known, others) := members.partition (·.1 ∈ names)
    if (known.map (·.1)).Nodup ∧ others.all (·.2.isReadable) then some known else none
  | _ => none

/-- Reads a field, or takes its default if it is missing. -/
def field? {α : Type} (read : Json5 → Option α) (fields : List (String × Json5)) (name : String) (default : α) :
    Option α :=
  match fields.lookup name with
  | none => some default
  | some value => read value

def toText? : Json5 → Option String
  | .text content => content
  | _ => none

def toUInt64? : Json5 → Option UInt64
  | .number n => n.toUnsigned?.map UInt64.ofNat
  | _ => none

/-- The texts in an object, of which the last one with a name counts. -/
def toTexts? : Json5 → Option (NameMap String)
  | .object members => do
    let entries ← members.mapM fun (name, value) => do return (← name, ← value.toText?)
    return NameMap.ofList entries
  | _ => none

end Json5

def Settings.ofJson5? (j : Json5) : Option Settings := do
  let fields ← j.fields? ["max_depth", "default_op", "suggestion_threshold"]
  let defaults : Settings := {}
  return {
    maxDepth := ← Json5.field? Json5.toUInt64? fields "max_depth" defaults.maxDepth
    defaultOp := ← Json5.field? Json5.toText? fields "default_op" defaults.defaultOp
    suggestionThreshold :=
      ← Json5.field? Json5.toUInt64? fields "suggestion_threshold" defaults.suggestionThreshold }

def Config.ofJson5? (j : Json5) : Option Config := do
  let fields ← j.fields? ["rules", "settings"]
  return {
    rules := ← Json5.field? Json5.toTexts? fields "rules" NameMap.empty
    settings := ← Json5.field? Settings.ofJson5? fields "settings" {} }

def Config.ofText? (s : String) : Option Config := do Config.ofJson5? (← Json5.ofText? s)

end AttributeRules
