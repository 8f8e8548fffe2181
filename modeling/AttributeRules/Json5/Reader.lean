import AttributeRules.Json5.Basic
import AttributeRules.Json5.Token

/-! Reading JSON5 texts.

A text holds one value between blanks and comments. Items and members are separated by commas, and one comma
may follow the last of them. -/

namespace AttributeRules.Json5

/-- Reads one of the three words that are values. -/
def readWord : List Char → Option (Json5 × List Char)
  | 'n' :: 'u' :: 'l' :: 'l' :: rest => some (.null, rest)
  | 't' :: 'r' :: 'u' :: 'e' :: rest => some (.bool true, rest)
  | 'f' :: 'a' :: 'l' :: 's' :: 'e' :: rest => some (.bool false, rest)
  | _ => none

mutual

/-- Reads a value off the front. The number bounds the nesting of calls; each call takes at least one
character. -/
def readValue : Nat → List Char → Option (Json5 × List Char)
  | 0, _ => none
  | bound + 1, s =>
    match s with
    | '[' :: rest => do
      let (items, rest) ← readItems bound (← skipBlanks rest)
      return (.array items, rest)
    | '{' :: rest => do
      let (members, rest) ← readMembers bound (← skipBlanks rest)
      return (.object members, rest)
    | '"' :: rest => (readText '"' rest).map fun (content, rest) => (.text content, rest)
    | '\'' :: rest => (readText '\'' rest).map fun (content, rest) => (.text content, rest)
    | s =>
      match readWord s with
      | some r => some r
      | none => (readNumeral s).map fun (n, rest) => (.number n, rest)

def readItems : Nat → List Char → Option (List Json5 × List Char)
  | 0, _ => none
  | bound + 1, s =>
    match s with
    | ']' :: rest => some ([], rest)
    | s => do
      let (item, rest) ← readValue bound s
      match ← skipBlanks rest with
      | ',' :: rest =>
        let (items, rest) ← readItems bound (← skipBlanks rest)
        return (item :: items, rest)
      | ']' :: rest => return ([item], rest)
      | _ => none

def readMembers : Nat → List Char → Option (List (Option String × Json5) × List Char)
  | 0, _ => none
  | bound + 1, s =>
    match s with
    | '}' :: rest => some ([], rest)
    | s => do
      let (name, rest) ← readName s
      match ← skipBlanks rest with
      | ':' :: rest =>
        let (value, rest) ← readValue bound (← skipBlanks rest)
        match ← skipBlanks rest with
        | ',' :: rest =>
          let (members, rest) ← readMembers bound (← skipBlanks rest)
          return ((name, value) :: members, rest)
        | '}' :: rest => return ([(name, value)], rest)
        | _ => none
      | _ => none

end

def ofText? (s : String) : Option Json5 := do
  let chars ← skipBlanks s.toList
  let (value, rest) ← readValue (chars.length + 1) chars
  match ← skipBlanks rest with
  | [] => return value
  | _ => none

end AttributeRules.Json5
