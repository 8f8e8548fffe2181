import AttributeRules.Text.CodeUnit
import AttributeRules.Text.Decimal

/-! Reading the parts of JSON texts: blanks, texts and integers.

Each reader takes its part off the front and gives the rest back. The syntax is strict: only four characters
are blank, control characters in a text must be escaped, and an integer has neither leading zeros nor, if it
is zero, a sign. -/

namespace AttributeRules.Json

/-- The four blank characters of JSON. -/
def isSpace (c : Char) : Bool := c == ' ' || c == '\t' || c == '\n' || c == '\r'

def skipSpace (s : List Char) : List Char := s.dropWhile isSpace

/-- The character that an escape of one letter stands for. -/
def unescape? : Char → Option Char
  | '"' => some '"'
  | '\\' => some '\\'
  | '/' => some '/'
  | 'b' => some '\x08'
  | 'f' => some '\x0c'
  | 'n' => some '\n'
  | 'r' => some '\r'
  | 't' => some '\t'
  | _ => none

/-- The pieces of a text up to its closing quote, and what follows the quote. -/
def readPieces : List Char → Option (List Text.Piece × List Char)
  | [] => none
  | '"' :: rest => some ([], rest)
  | '\\' :: 'u' :: a :: b :: c :: d :: rest =>
    match Text.hexValue? 0 [a, b, c, d], readPieces rest with
    | some n, some (pieces, tail) => some (.ofUnit n :: pieces, tail)
    | _, _ => none
  | '\\' :: c :: rest =>
    match unescape? c, readPieces rest with
    | some e, some (pieces, tail) => some (.char e :: pieces, tail)
    | _, _ => none
  | c :: rest =>
    if c.toNat < 0x20 ∨ c = '\\' then none
    else (readPieces rest).map fun (pieces, tail) => (.char c :: pieces, tail)

/-- Reads a text whose opening quote has been taken off. -/
def readText (s : List Char) : Option (String × List Char) :=
  match readPieces s with
  | none => none
  | some (pieces, rest) => (Text.joinPieces Text.pairSum pieces).map fun chars => (String.ofList chars, rest)

/-- Does a number go on as a fraction or with an exponent here? -/
def continuesNumber : List Char → Bool
  | c :: _ => c == '.' || c == 'e' || c == 'E'
  | [] => false

/-- Reads the digits of an integer: at least one, and no zero in front of others. -/
def readNatural (s : List Char) : Option (Nat × List Char) :=
  match Text.spanDigits s with
  | ([], _) => none
  | ('0' :: _ :: _, _) => none
  | (digits, rest) => if continuesNumber rest then none else some (Text.numeralValue digits, rest)

/-- Reads an integer; a zero has no sign. -/
def readInteger : List Char → Option (Int × List Char)
  | '-' :: rest =>
    match readNatural rest with
    | some (n + 1, tail) => some (.negSucc n, tail)
    | _ => none
  | s => (readNatural s).map fun (n, rest) => (.ofNat n, rest)

end AttributeRules.Json
