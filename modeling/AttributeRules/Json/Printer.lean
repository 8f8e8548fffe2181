import AttributeRules.Text.CodeUnit
import AttributeRules.Text.Decimal

/-! JSON values, with integers as the only numbers, and writing them on one line or indented.

In a text the quote, the backslash and the control characters below U+0020 are escaped, five of them with a
letter; all other characters stand as they are. The indented form gives each item and member a line of its
own, two spaces deeper than its parent. Empty arrays and objects have one line in each form. -/

namespace AttributeRules

/-- A JSON value; the members of an object keep their order. -/
inductive Json
  | null
  | bool (b : Bool)
  | integer (n : Int)
  | text (s : String)
  | array (items : List Json)
  | object (members : List (String × Json))

namespace Json

instance : Inhabited Json := ⟨.null⟩

def count (n : Nat) : Json := .integer n

def texts (items : List String) : Json := .array (items.map .text)

/-- The written form of a character inside a text. -/
def escape (c : Char) : List Char :=
  if c = '"' then ['\\', '"']
  else if c = '\\' then ['\\', '\\']
  else if c = '\x08' then ['\\', 'b']
  else if c = '\t' then ['\\', 't']
  else if c = '\n' then ['\\', 'n']
  else if c = '\x0c' then ['\\', 'f']
  else if c = '\r' then ['\\', 'r']
  else if c.toNat < 0x20 then ['\\', 'u', '0', '0', Text.hexDigit (c.toNat / 16), Text.hexDigit (c.toNat % 16)]
  else [c]

def quote (s : String) : List Char := '"' :: (s.toList.flatMap escape ++ ['"'])

/-- What stands in front of an item, member or closing mark that is indented so far, and what stands behind a colon. -/
structure Layout where
  gap : Nat → List Char
  space : List Char

/-- No blanks. -/
def Layout.compact : Layout where
  gap _ := []
  space := []

/-- Each item and member on a line of its own, with one blank after a colon. -/
def Layout.pretty : Layout where
  gap indent := '\n' :: List.replicate indent ' '
  space := [' ']

mutual

/-- The form of a value that is indented so far. -/
def print (l : Layout) (indent : Nat) : Json → List Char
  | .null => "null".toList
  | .bool true => "true".toList
  | .bool false => "false".toList
  | .integer n => Text.integerText n
  | .text s => quote s
  | .array [] => ['[', ']']
  | .array (item :: rest) =>
    '[' :: (l.gap (indent + 2) ++ printItems l (indent + 2) (item :: rest) ++ l.gap indent ++ [']'])
  | .object [] => ['{', '}']
  | .object (member :: rest) =>
    '{' :: (l.gap (indent + 2) ++ printMembers l (indent + 2) (member :: rest) ++ l.gap indent ++ ['}'])

/-- Items, with commas between them. -/
def printItems (l : Layout) (indent : Nat) : List Json → List Char
  | [] => []
  | [item] => print l indent item
  | item :: rest => print l indent item ++ ',' :: (l.gap indent ++ printItems l indent rest)

/-- Members, with commas between them. -/
def printMembers (l : Layout) (indent : Nat) : List (String × Json) → List Char
  | [] => []
  | [(name, value)] => quote name ++ ':' :: (l.space ++ print l indent value)
  | (name, value) :: rest =>
    quote name ++ ':' :: (l.space ++ print l indent value ++ ',' :: (l.gap indent ++ printMembers l indent rest))

end

def toText (j : Json) : String := String.ofList (j.print .compact 0)

def toPrettyText (j : Json) : String := String.ofList (j.print .pretty 0)

end Json
end AttributeRules
