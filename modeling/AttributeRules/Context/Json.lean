import AttributeRules.Json.Printer
import AttributeRules.Json.Reader
import AttributeRules.Value

/-! Contexts as JSON objects of integers and texts.

Reading takes one object and nothing after it. Every value has to be an integer of 64 bits or a text; of a
repeated name the last value counts. -/

namespace AttributeRules

namespace Value

def toJson : Value → Json
  | .integer n => .integer n.toInt
  | .text s => .text s

/-- Reads a value off the front of a text. -/
def readJson : List Char → Option (Value × List Char)
  | '"' :: rest => (Json.readText rest).map fun (s, tail) => (.text s, tail)
  | s =>
    match Json.readInteger s with
    | some (n, rest) =>
      if Int64.minValue.toInt ≤ n ∧ n ≤ Int64.maxValue.toInt then some (.integer (Int64.ofInt n), rest) else none
    | none => none

/-- Reads a text that is a value between blanks. -/
def ofJsonText? (s : String) : Option Value :=
  match readJson (Json.skipSpace s.toList) with
  | some (v, rest) => if (Json.skipSpace rest).isEmpty then some v else none
  | none => none

end Value

namespace Context

/-- Reads a name, a colon and a value off the front. -/
def readMember : List Char → Option ((String × Value) × List Char)
  | '"' :: rest =>
    match Json.readText rest with
    | none => none
    | some (name, rest) =>
      match Json.skipSpace rest with
      | ':' :: rest =>
        (Value.readJson (Json.skipSpace rest)).map fun (value, rest) => ((name, value), Json.skipSpace rest)
      | _ => none
  | _ => none

/-- Reads the members up to the closing brace. The number bounds the members that are read; each takes at
least one character. -/
def readMembers : Nat → List Char → Option (List (String × Value) × List Char)
  | 0, _ => none
  | bound + 1, s =>
    match readMember s with
    | some (member, '}' :: rest) => some ([member], rest)
    | some (member, ',' :: rest) =>
      (readMembers bound (Json.skipSpace rest)).map fun (members, tail) => (member :: members, tail)
    | _ => none

/-- The members of a text that is one object of integers and texts. -/
def readObject (s : List Char) : Option (List (String × Value) × List Char) :=
  match Json.skipSpace s with
  | '{' :: rest =>
    match Json.skipSpace rest with
    | '}' :: rest => some ([], rest)
    | rest => readMembers rest.length rest
  | _ => none

/-- Reads a text that is a context. -/
def ofJsonText? (s : String) : Option Context :=
  match readObject s.toList with
  | some (members, rest) => if (Json.skipSpace rest).isEmpty then some (NameMap.ofList members) else none
  | none => none

/-- The JSON form of a context, its names in increasing order. -/
def toJson (context : Context) : Json := .object (context.entries.map fun (name, value) => (name, value.toJson))

end Context
end AttributeRules
