import AttributeRules.Text.Decimal

/-! Rounding decimal numbers to 64 bit floating point numbers.

A positive number is rounded to a significand of at most 53 bits times a power of two, to the nearest one and
to an even significand in a tie. The exponent is at least -1074, so small numbers lose bits down to zero; from
$2^{1024}$ on a number is too large. -/

namespace AttributeRules

/-- The nearest integer to a quotient, the even one of two that are equally near. -/
def roundQuotient (n d : Nat) : Nat :=
  let (q, r) := (n / d, n % d)
  if 2 * r < d then q else if d < 2 * r then q + 1 else q + q % 2

/-- A number of the form $m · 2^e$. -/
structure Dyadic where
  significand : Nat
  exponent : Int
  deriving DecidableEq, Repr

namespace Dyadic

/-- The largest integer that is not above the number. -/
def floor (x : Dyadic) : Nat :=
  if 0 ≤ x.exponent then x.significand <<< x.exponent.toNat else x.significand >>> (-x.exponent).toNat

end Dyadic

namespace Binary64

/-- The largest power of two that is not above a positive quotient. -/
def binaryLog (n d : Nat) : Int :=
  let e : Int := (Nat.log2 n : Int) - Nat.log2 d
  if d <<< e.toNat ≤ n <<< (-e).toNat then e else e - 1

/-- The 64 bit floating point number nearest to a quotient; none if that is too large. -/
def ofQuotient? (n d : Nat) : Option Dyadic :=
  let e := max (binaryLog n d - 52) (-1074)
  let x : Dyadic := ⟨roundQuotient (n <<< (-e).toNat) (d <<< e.toNat), e⟩
  if x.floor < 1 <<< 1024 then some x else none

/-- The 64 bit floating point number nearest to $m · 10^e$; none if that is too large. Numbers that are far
too large or too small are told by their order of magnitude. -/
def ofDecimal? (m : Nat) (e : Int) : Option Dyadic :=
  let magnitude := (Text.numeral m).length + e
  if m = 0 ∨ magnitude < -330 then some ⟨0, 0⟩
  else if 310 < magnitude then none
  else ofQuotient? (m * Nat.pow 10 e.toNat) (Nat.pow 10 (-e).toNat)

end Binary64
end AttributeRules
