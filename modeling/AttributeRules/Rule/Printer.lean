import AttributeRules.Json.Printer
import AttributeRules.Rule.Parser

/-! Writing rules as text, as JSON and as trees.

In the text every connective stands inside parentheses with what it joins. An operand that itself looks wrapped gets a
pair of parentheses more, which reading takes off again. A tree has one line for each operand and connective, parents
first. -/

namespace AttributeRules

/-- The JSON form of a connective is its keyword. -/
def Connective.toJson (op : Connective) : Json := .text op.keyword

namespace Rule

/-- The text of a rule in front of a text. -/
def writeThen : Rule → List Char → List Char
  | .operand text, rest =>
    if isWrapped text.toList then '(' :: (text.toList ++ ')' :: rest) else text.toList ++ rest
  | .operator op left right, rest =>
    '(' :: left.writeThen (' ' :: (op.keyword.toList ++ ' ' :: right.writeThen (')' :: rest)))

/-- The text of a rule. -/
def write (r : Rule) : String := String.ofList (r.writeThen [])

/-- The JSON form of a rule: an object tagged with what it is. -/
def toJson : Rule → Json
  | .operand text => .object [("type", .text "operand"), ("value", .text text)]
  | .operator op left right =>
    .object [("type", .text "operator"), ("op", op.toJson), ("left", left.toJson), ("right", right.toJson)]

/-- Hangs the lines of a subtree on a branch: its first line after the branch, the others indented below. -/
def hang (branch indent : String) : List (List Char) → List (List Char)
  | [] => []
  | line :: below => (branch.toList ++ line) :: below.map (indent.toList ++ ·)

def drawLines : Rule → List (List Char)
  | .operand text => [text.toList]
  | .operator op left right =>
    op.keyword.toList :: (hang "├── " "│   " left.drawLines ++ hang "└── " "    " right.drawLines)

/-- The drawing of a rule, each line ended. -/
def draw (r : Rule) : String := String.ofList (r.drawLines.flatMap (· ++ ['\n']))

end Rule
end AttributeRules
