import AttributeRules.Rule.Basic

/-! Reading rules.

A text is trimmed and loses one opening parenthesis in front and one closing at its end, if it has both,
whether or not they belong together. The leftmost keyword outside all parentheses then splits it, so there is
no precedence among connectives; a keyword counts wherever it stands, also inside a word. A text without such
a keyword is an operand, which is not looked at further. -/

namespace AttributeRules

/-- Is the text at least two characters long, with an opening parenthesis in front and a closing one at its end? -/
def isWrapped : List Char → Bool
  | '(' :: rest => rest.getLast? == some ')'
  | _ => false

/-- A trimmed text without its outer pair of parentheses, if it has one, and trimmed again. -/
def unwrap (s : List Char) : List Char :=
  if isWrapped s then Text.trim s.tail.dropLast else s

/-- The number of open parentheses after a character; it may go below zero. -/
def nestingAfter (nesting : Int) (c : Char) : Int :=
  if c = '(' then nesting + 1 else if c = ')' then nesting - 1 else nesting

/-- The leftmost keyword that stands where no parenthesis is open, and its position, in a text that starts at a
position with so many parentheses open. -/
def connectiveFrom? (nesting : Int) (position : Nat) : List Char → Option (Nat × Connective)
  | [] => none
  | s@(c :: rest) =>
    match if nesting = 0 then Connective.ofStart? s else none with
    | some op => some (position, op)
    | none => connectiveFrom? (nestingAfter nesting c) (position + 1) rest

/-- The leftmost keyword outside all parentheses, and its position. -/
def leftmostConnective? (s : List Char) : Option (Nat × Connective) := connectiveFrom? 0 0 s

structure Split where
  left : List Char
  op : Connective
  right : List Char

/-- Splits a text at the leftmost keyword outside all parentheses. -/
def split? (s : List Char) : Option Split :=
  match leftmostConnective? s with
  | some (position, op) => some ⟨s.take position, op, s.drop (position + op.keyword.length)⟩
  | none => none

namespace Rule

/-- Reads a text as a rule of at most so many levels. -/
def parseWithin : Nat → List Char → Option Rule
  | 0, _ => none
  | levels + 1, text =>
    let body := unwrap (Text.trim text)
    match split? body with
    | none => some (.operand (String.ofList body))
    | some s =>
      match parseWithin levels s.left with
      | none => none
      | some left =>
        match parseWithin levels s.right with
        | none => none
        | some right => some (.operator s.op left right)

/-- Reads a rule; the only texts refused are those whose tree is deeper than the limit. -/
def parse (limit : Nat) (text : String) : Except RuleError Rule :=
  match parseWithin limit text.toList with
  | some r => .ok r
  | none => .error (.tooDeep limit)

end Rule
end AttributeRules
