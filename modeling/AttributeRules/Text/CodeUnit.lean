/-! Characters written as escapes of four hexadecimal digits.

An escape gives a 16 bit code unit. A unit outside the surrogate range is a character by itself; a high
surrogate and the low surrogate right after it are one character together, and a surrogate that is not so
paired is no text. Which character a pair stands for is decided by the format that holds it. -/

namespace AttributeRules.Text

/-- The value of a hexadecimal digit of either case. -/
def hexDigit? (c : Char) : Option Nat :=
  if '0' ≤ c ∧ c ≤ '9' then some (c.toNat - '0'.toNat)
  else if 'a' ≤ c ∧ c ≤ 'f' then some (c.toNat - 'a'.toNat + 10)
  else if 'A' ≤ c ∧ c ≤ 'F' then some (c.toNat - 'A'.toNat + 10)
  else none

/-- The value of a run of hexadecimal digits that follows a value. -/
def hexValue? : Nat → List Char → Option Nat
  | value, [] => some value
  | value, c :: rest =>
    match hexDigit? c with
    | some d => hexValue? (value * 16 + d) rest
    | none => none

/-- The lower-case hexadecimal digit of a number below sixteen. -/
def hexDigit (n : Nat) : Char :=
  if n < 10 then Char.ofNat ('0'.toNat + n) else Char.ofNat ('a'.toNat + (n - 10))

/-- A character as it stands, or a surrogate that was written as an escape. -/
inductive Piece
  | char (c : Char)
  | high (n : Nat)
  | low (n : Nat)
  deriving DecidableEq, Repr

/-- The piece that a code unit is. -/
def Piece.ofUnit (n : Nat) : Piece :=
  if 0xD800 ≤ n ∧ n < 0xDC00 then .high (n - 0xD800)
  else if 0xDC00 ≤ n ∧ n < 0xE000 then .low (n - 0xDC00)
  else .char (Char.ofNat n)

/-- The code point of a pair of surrogates by their ten bits each: the twenty bits added to $2^{16}$. -/
def pairSum (high low : Nat) : Nat := 0x10000 + (high * 0x400 + low)

/-- A code point for a pair of surrogates in which the bit of $2^{16}$ is set, and not added to the twenty bits.
It agrees with the sum where that bit is not among them. -/
def pairUnion (high low : Nat) : Nat := 0x10000 ||| (high * 0x400 + low)

/-- Joins the pieces of a text, a pair of surrogates by the rule given; a surrogate without its partner makes it
no text. -/
def joinPieces (pair : Nat → Nat → Nat) : List Piece → Option (List Char)
  | [] => some []
  | .char c :: rest => (joinPieces pair rest).map (c :: ·)
  | .high h :: .low l :: rest => (joinPieces pair rest).map (Char.ofNat (pair h l) :: ·)
  | _ :: _ => none

/-- Characters that stand for themselves make a text. -/
@[simp] theorem joinPieces_map_char (pair : Nat → Nat → Nat) (s : List Char) :
    joinPieces pair (s.map .char) = some s := by
  induction s with
  | nil => rfl
  | cons c rest ih => simp [joinPieces, ih]

end AttributeRules.Text
