import AttributeRules.Json5.Numeral
import AttributeRules.Text.CodeUnit
import AttributeRules.Text.Letter

/-! The parts of JSON5 texts: blanks and comments, texts, names and numbers.

Each reader takes its part off the front and gives the rest back. -/

namespace AttributeRules.Json5
open Text (Piece)

/-- The four characters that end a line. -/
def isLineEnd (c : Char) : Bool := c == '\n' || c == '\r' || c == '\u2028' || c == '\u2029'

/-- The blank characters: some control characters, the byte order mark, line ends and space separators. -/
def isSpace (c : Char) : Bool :=
  isLineEnd c || c == '\t' || c == '\x0b' || c == '\x0c' || c == '\ufeff' || c == ' ' || c == '\u00a0' ||
    c == '\u1680' || ('\u2000' ≤ c && c ≤ '\u200a') || c == '\u202f' || c == '\u205f' || c == '\u3000'

/-- What is being skipped: blanks, a comment up to the end of its line, or one up to its closing mark. -/
inductive Skipped
  | blanks
  | line
  | block

/-- Drops blanks and comments in front; none if a comment is not closed. -/
def skip : Skipped → List Char → Option (List Char)
  | .block, [] => none
  | _, [] => some []
  | .block, '*' :: '/' :: rest => skip .blanks rest
  | .block, _ :: rest => skip .block rest
  | .line, c :: rest => skip (if isLineEnd c then .blanks else .line) rest
  | .blanks, '/' :: '/' :: rest => skip .line rest
  | .blanks, '/' :: '*' :: rest => skip .block rest
  | .blanks, c :: rest => if isSpace c then skip .blanks rest else some (c :: rest)

def skipBlanks (s : List Char) : Option (List Char) := skip .blanks s

/-- Puts a piece in front of those already read. -/
def push (p : Piece) : List Piece × List Char → List Piece × List Char
  | (pieces, rest) => (p :: pieces, rest)

/-- The character that an escape stands for; digits and the letters of other escapes stand for none. -/
def unescape? : Char → Option Char
  | 'b' => some '\x08'
  | 'f' => some '\x0c'
  | 'n' => some '\n'
  | 'r' => some '\r'
  | 't' => some '\t'
  | 'v' => some '\x0b'
  | '0' => some '\x00'
  | 'x' => none
  | 'u' => none
  | c => if c.isDigit then none else some c

/-- The pieces of a text up to its closing quote, and what follows the quote. A line end has to be escaped,
and an escaped one counts for nothing. -/
def readPieces (quote : Char) : List Char → Option (List Piece × List Char)
  | [] => none
  | '\\' :: '\r' :: '\n' :: rest => readPieces quote rest
  | '\\' :: 'x' :: a :: b :: rest =>
    match Text.hexValue? 0 [a, b] with
    | some n => (readPieces quote rest).map (push (.ofUnit n))
    | none => none
  | '\\' :: 'u' :: a :: b :: c :: d :: rest =>
    match Text.hexValue? 0 [a, b, c, d] with
    | some n => (readPieces quote rest).map (push (.ofUnit n))
    | none => none
  | '\\' :: c :: rest =>
    if isLineEnd c then readPieces quote rest
    else
      match unescape? c with
      | some e => (readPieces quote rest).map (push (.char e))
      | none => none
  | c :: rest =>
    if c = quote then some ([], rest)
    else if isLineEnd c || c == '\\' then none
    else (readPieces quote rest).map (push (.char c))

/-- The content that pieces make together. The bits of paired surrogates are united. -/
def content (pieces : List Piece) : Option String := (Text.joinPieces Text.pairUnion pieces).map String.ofList

/-- Reads a text whose opening quote has been taken off. -/
def readText (quote : Char) (s : List Char) : Option (Option String × List Char) :=
  (readPieces quote s).map fun (pieces, rest) => (content pieces, rest)

/-- Can the character stand at the start of a name without quotes? -/
def startsName (c : Char) : Bool := Text.isLetter c || c == '$' || c == '_'

/-- Can the character stand in a name without quotes after its start? -/
def continuesName (c : Char) : Bool := startsName c || Text.isNameMark c || c == '\u200c' || c == '\u200d'

/-- The longest run of pieces of a name without quotes, and the rest; any character may be written as an
escape. -/
def readNamePieces (allowed : Char → Bool) : List Char → List Piece × List Char
  | [] => ([], [])
  | '\\' :: 'u' :: a :: b :: c :: d :: rest =>
    match Text.hexValue? 0 [a, b, c, d] with
    | some n => push (.ofUnit n) (readNamePieces continuesName rest)
    | none => ([], '\\' :: 'u' :: a :: b :: c :: d :: rest)
  | c :: rest => if allowed c then push (.char c) (readNamePieces continuesName rest) else ([], c :: rest)

/-- Reads the name of a member, with or without quotes. -/
def readName : List Char → Option (Option String × List Char)
  | '"' :: rest => readText '"' rest
  | '\'' :: rest => readText '\'' rest
  | s =>
    match readNamePieces startsName s with
    | ([], _) => none
    | (pieces, rest) => some (content pieces, rest)

/-- Reads a sign, if there is one. -/
def readSign : List Char → Sign × List Char
  | '+' :: rest => (.plus, rest)
  | '-' :: rest => (.minus, rest)
  | s => (.absent, s)

/-- Reads an exponent, if there is one; none if its digits are missing. -/
def readExponent : List Char → Option (Option Int × List Char)
  | c :: rest =>
    if c = 'e' ∨ c = 'E' then
      let (sign, rest) := readSign rest
      match Text.spanDigits rest with
      | ([], _) => none
      | (digits, rest) =>
        let n := Text.numeralValue digits
        some (some (if sign = .minus then -(n : Int) else n), rest)
    else some (none, c :: rest)
  | [] => some (none, [])

/-- Reads the digits after a point, if there is one. -/
def readFraction : List Char → Option (List Char) × List Char
  | '.' :: rest => (some (Text.spanDigits rest).1, (Text.spanDigits rest).2)
  | s => (none, s)

/-- Reads a decimal number after its sign: digits on at least one side of the point, and no zero in front of
other digits. -/
def readDecimal (sign : Sign) (s : List Char) : Option (Numeral × List Char) :=
  let (whole, rest) := Text.spanDigits s
  let (fraction, rest) := readFraction rest
  let digits := whole ++ fraction.getD []
  if digits.isEmpty || (whole.length ≥ 2 && whole.head? == some '0') then none
  else
    (readExponent rest).map fun (exponent, rest) =>
      (.decimal sign (fraction.isNone && exponent.isNone) (Text.numeralValue digits)
        (exponent.getD 0 - (fraction.getD []).length), rest)

def readNumeral (s : List Char) : Option (Numeral × List Char) :=
  let (sign, s) := readSign s
  match s with
  | 'I' :: 'n' :: 'f' :: 'i' :: 'n' :: 'i' :: 't' :: 'y' :: rest => some (.infinity sign, rest)
  | 'N' :: 'a' :: 'N' :: rest => some (.notANumber sign, rest)
  | '0' :: c :: rest =>
    if c = 'x' ∨ c = 'X' then
      let (digits, tail) := rest.span fun d => (Text.hexDigit? d).isSome
      if digits.isEmpty then none
      else (Text.hexValue? 0 digits).map fun value => (.hexadecimal sign value, tail)
    else readDecimal sign s
  | _ => readDecimal sign s

end AttributeRules.Json5
