import AttributeRules.Binary64

/-! JSON5 numbers as they are written, and the integers that they stand for. -/

namespace AttributeRules.Json5

inductive Sign
  | absent
  | plus
  | minus
  deriving DecidableEq, Repr

/-- A number as it is written. -/
inductive Numeral
  | hexadecimal (sign : Sign) (value : Nat)
  /-- The decimal number `significand` times ten to the power `exponent`; a whole one has neither a point nor
  an exponent in its text. -/
  | decimal (sign : Sign) (whole : Bool) (significand : Nat) (exponent : Int)
  | infinity (sign : Sign)
  | notANumber (sign : Sign)
  deriving DecidableEq, Repr

namespace Numeral

/-- The largest unsigned integer of 64 bits. -/
def maxUnsigned : Nat := 0xFFFFFFFFFFFFFFFF

/-- The number as an unsigned integer: the nearest floating point number without its fraction, and the nearest
end of the range where it lies outside. A plus sign is refused in front of words, any sign in front of
hexadecimal digits, and a number that is too large for a floating point number. -/
def toUnsigned? : Numeral → Option Nat
  | .hexadecimal .absent value => if value < 0x100000000 then some value else none
  | .hexadecimal _ _ => none
  | .decimal sign _ significand exponent =>
    (Binary64.ofDecimal? significand exponent).map fun x =>
      if sign = .minus then 0 else min x.floor maxUnsigned
  | .infinity .plus => none
  | .infinity .minus => some 0
  | .infinity .absent => some maxUnsigned
  | .notANumber .plus => none
  | .notANumber _ => some 0

/-- Can the number be read where nothing is known about its type? Whole numbers then have to be integers of
64 bits with a sign. -/
def isReadable : Numeral → Bool
  | .hexadecimal sign value => sign == .absent && value < 0x100000000
  | .decimal .minus true significand _ => significand ≤ 0x8000000000000000
  | .decimal _ true significand _ => significand < 0x8000000000000000
  | .decimal _ false significand exponent => (Binary64.ofDecimal? significand exponent).isSome
  | .infinity sign => sign != .plus
  | .notANumber sign => sign != .plus

theorem toUnsigned?_le {n : Numeral} {k : Nat} (h : n.toUnsigned? = some k) : k ≤ maxUnsigned := by
  unfold toUnsigned? at h
  split at h
  · split at h
    · cases h
      simp only [maxUnsigned]
      omega
    · cases h
  · cases h
  · simp only [Option.map_eq_some_iff] at h
    obtain ⟨x, -, rfl⟩ := h
    split
    · exact Nat.zero_le _
    · exact Nat.min_le_right _ _
  · cases h
  · cases h
    exact Nat.zero_le _
  · cases h
    exact Nat.le_refl _
  · cases h
  · cases h
    exact Nat.zero_le _

end Numeral
end AttributeRules.Json5
