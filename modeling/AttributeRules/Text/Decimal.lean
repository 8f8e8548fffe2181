/-! Decimal numerals.

A numeral is a run of the digits `0` to `9`; its value is read from left to right and compared with an
inclusive bound, so that a numeral too large for its target is refused and never wrapped. -/

namespace AttributeRules.Text

/-- Is the text a numeral: at least one character, and only ASCII digits? -/
def isNumeral (s : List Char) : Bool := !s.isEmpty && s.all Char.isDigit

/-- Splits the digits off the front. -/
def spanDigits (s : List Char) : List Char × List Char := (s.takeWhile Char.isDigit, s.dropWhile Char.isDigit)

/-- The value of a run of ASCII digits; leading zeros count for nothing. -/
def numeralValue (s : List Char) : Nat := Nat.ofDigitChars 10 s 0

/-- The shortest numeral of a number. -/
def numeral (n : Nat) : List Char := Nat.toDigits 10 n

/-- The decimal text of an integer, with a minus sign in front of a negative one. -/
def integerText : Int → List Char
  | .ofNat n => numeral n
  | .negSucc n => '-' :: numeral (n + 1)

@[simp] theorem numeralValue_numeral (n : Nat) : numeralValue (numeral n) = n :=
  Nat.ofDigitChars_toDigits (by decide) (by decide)

theorem isDigit_of_mem_numeral {n : Nat} {c : Char} (h : c ∈ numeral n) : c.isDigit = true :=
  Nat.isDigit_of_mem_toDigits (by decide) (by decide) h

/-- Why a text is no unsigned number below a bound. -/
inductive NumberFault
  | empty
  /-- A character is no digit, or nothing follows the sign. -/
  | notDigit
  /-- The digits read so far already exceed the bound. -/
  | tooLarge
  deriving DecidableEq, Repr

/-- Reads digits after a number already read; the first fault from the left is the answer. -/
def readDigits (bound : Nat) : Nat → List Char → Except NumberFault Nat
  | value, [] => .ok value
  | value, c :: rest =>
    if c.isDigit then
      let next := value * 10 + (c.toNat - '0'.toNat)
      if next ≤ bound then readDigits bound next rest else .error .tooLarge
    else .error .notDigit

/-- Reads an unsigned number of at most `bound`, with an optional plus sign in front. -/
def readNumber (bound : Nat) : List Char → Except NumberFault Nat
  | [] => .error .empty
  | ['+'] => .error .notDigit
  | '+' :: rest => readDigits bound 0 rest
  | s => readDigits bound 0 s

def NumberFault.message : NumberFault → String
  | .empty => "cannot parse integer from empty string"
  | .notDigit => "invalid digit found in string"
  | .tooLarge => "number too large to fit in target type"

end AttributeRules.Text
