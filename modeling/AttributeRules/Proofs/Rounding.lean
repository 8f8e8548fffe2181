import Mathlib.Algebra.Order.Field.Power
import Mathlib.Algebra.Order.Field.Rat
import Mathlib.Tactic.Positivity
import Mathlib.Tactic.Ring
import AttributeRules.Json5.Numeral

/-! Unsigned numbers that go through a 64 bit floating point number.

A natural number that is written in digits and read back is rounded to 53 bits and bounded by the largest unsigned
number (`toUnsigned?_natural`). A number that was read is one with 53 bits in front of its zeros, or the largest one,
and reading it again does not change it (`reread_of_toUnsigned?`). -/

namespace AttributeRules

/-! ### Rounding a quotient -/

theorem div_le_roundQuotient (n d : Nat) : n / d ≤ roundQuotient n d := by
  simp only [roundQuotient]
  split
  · exact Nat.le_refl _
  · split <;> omega

theorem roundQuotient_le (n d : Nat) : roundQuotient n d ≤ n / d + 1 := by
  have hbit : n / d % 2 < 2 := Nat.mod_lt _ (by decide)
  simp only [roundQuotient]
  split
  · exact Nat.le_succ _
  · split <;> omega

theorem roundQuotient_of_dvd {n d : Nat} (hd : 0 < d) (h : d ∣ n) : roundQuotient n d = n / d := by
  simp [roundQuotient, Nat.mod_eq_zero_of_dvd h, hd]

theorem roundQuotient_le_of_lt {n d bound : Nat} (h : n < bound * d) : roundQuotient n d ≤ bound := by
  have hdiv : n / d < bound := Nat.div_lt_of_lt_mul (by rwa [Nat.mul_comm])
  have hle := roundQuotient_le n d
  omega

namespace Binary64

/-! ### Numbers that need no rounding -/

/-- A natural number of 53 bits, or a full one of 54, and zeros behind them. -/
def Exact (n : Nat) : Prop := ∃ s e, s ≤ 2 ^ 53 ∧ n = s * 2 ^ e

/-- The number of bits of a natural number beyond the first 53. -/
def spareBits (n : Nat) : Nat := n.log2 - 52

/-- A natural number rounded to 53 bits. -/
def nearest (n : Nat) : Nat := roundQuotient n (2 ^ spareBits n) * 2 ^ spareBits n

theorem exact_of_le {n : Nat} (h : n ≤ 2 ^ 53) : Exact n := ⟨n, 0, h, by simp⟩

theorem dvd_of_exact {n : Nat} (h : Exact n) : 2 ^ spareBits n ∣ n := by
  obtain ⟨s, e, hs, rfl⟩ := h
  by_cases hzero : s * 2 ^ e = 0
  · rw [hzero]
    exact Nat.dvd_zero _
  · by_cases hspare : spareBits (s * 2 ^ e) ≤ e
    · exact Nat.dvd_mul_left_of_dvd (Nat.pow_dvd_pow 2 hspare) s
    · -- The significand is then the full one of 54 bits.
      have hlog : e + 53 ≤ (s * 2 ^ e).log2 := by
        unfold spareBits at hspare
        omega
      have hlower : 2 ^ (e + 53) ≤ s * 2 ^ e :=
        Nat.le_trans (Nat.pow_le_pow_right (by decide) hlog) (Nat.log2_self_le hzero)
      have hupper : s * 2 ^ e ≤ 2 ^ (e + 53) := by
        rw [Nat.pow_add, Nat.mul_comm (2 ^ e)]
        exact Nat.mul_le_mul_right _ hs
      have heq : s * 2 ^ e = 2 ^ (e + 53) := Nat.le_antisymm hupper hlower
      rw [heq]
      refine Nat.pow_dvd_pow 2 ?_
      rw [spareBits, Nat.log2_two_pow]
      omega

theorem nearest_of_exact {n : Nat} (h : Exact n) : nearest n = n := by
  have hdvd := dvd_of_exact h
  rw [nearest, roundQuotient_of_dvd (Nat.two_pow_pos _) hdvd, Nat.div_mul_cancel hdvd]

theorem two_pow_spareBits_le {n : Nat} (h : n ≠ 0) : 2 ^ spareBits n ≤ n :=
  Nat.le_trans (Nat.pow_le_pow_right (by decide) (Nat.sub_le _ _)) (Nat.log2_self_le h)

theorem nearest_le (n : Nat) : nearest n ≤ 2 * n := by
  by_cases hspare : spareBits n = 0
  · have hexact : roundQuotient n 1 = n := by
      rw [roundQuotient_of_dvd Nat.one_pos (Nat.one_dvd n), Nat.div_one]
    rw [nearest, hspare, Nat.pow_zero, hexact]
    omega
  · have hne : n ≠ 0 := by
      rintro rfl
      exact hspare rfl
    have hpow := two_pow_spareBits_le hne
    have hround := Nat.mul_le_mul_right (2 ^ spareBits n) (roundQuotient_le n (2 ^ spareBits n))
    have hdiv := Nat.div_mul_le_self n (2 ^ spareBits n)
    rw [nearest]
    rw [Nat.add_mul, Nat.one_mul] at hround
    omega

/-! ### The significand -/

theorem mul_two_pow_lt_iff (n m : Nat) (e : Int) :
    n * 2 ^ (-e).toNat < m * 2 ^ e.toNat ↔ (n : ℚ) < m * 2 ^ e := by
  obtain ⟨k, rfl | rfl⟩ := e.eq_nat_or_neg
  · rw [Int.toNat_neg_natCast, Int.toNat_natCast, Nat.pow_zero, Nat.mul_one, zpow_natCast]
    exact_mod_cast Iff.rfl
  · rw [Int.neg_neg, Int.toNat_natCast, Int.toNat_neg_natCast, Nat.pow_zero, Nat.mul_one, zpow_neg, zpow_natCast,
      ← div_eq_mul_inv, lt_div_iff₀ (by positivity)]
    exact_mod_cast Iff.rfl

theorem lt_mul_binaryLog (n : Nat) {d : Nat} (hd : d ≠ 0) : (n : ℚ) < d * 2 ^ (binaryLog n d + 1) := by
  simp only [binaryLog]
  split
  · have hn : (n : ℚ) < 2 ^ ((n.log2 : Int) + 1) := by
      exact_mod_cast Nat.lt_log2_self (n := n)
    have hd' : (2 : ℚ) ^ (d.log2 : Int) ≤ d := by
      exact_mod_cast Nat.log2_self_le hd
    calc (n : ℚ) < 2 ^ ((n.log2 : Int) + 1) := hn
      _ = 2 ^ (d.log2 : Int) * 2 ^ ((n.log2 : Int) - d.log2 + 1) := by
        rw [← zpow_add₀ (by norm_num)]
        congr 1
        omega
      _ ≤ d * 2 ^ ((n.log2 : Int) - d.log2 + 1) := by gcongr
  · rename_i h
    rw [Nat.shiftLeft_eq, Nat.shiftLeft_eq, Nat.not_le, mul_two_pow_lt_iff] at h
    rwa [Int.sub_add_cancel]

theorem significand_le {n d : Nat} {x : Dyadic} (hd : d ≠ 0) (h : ofQuotient? n d = some x) :
    x.significand ≤ 2 ^ 53 := by
  simp only [ofQuotient?] at h
  split at h
  · cases h
    generalize he : max (binaryLog n d - 52) (-1074) = e
    have hlog : binaryLog n d + 1 ≤ 53 + e := by omega
    refine roundQuotient_le_of_lt ?_
    rw [Nat.shiftLeft_eq, Nat.shiftLeft_eq, ← Nat.mul_assoc, mul_two_pow_lt_iff]
    calc (n : ℚ) < d * 2 ^ (binaryLog n d + 1) := lt_mul_binaryLog n hd
      _ ≤ d * 2 ^ (53 + e) := by
        gcongr
        norm_num
      _ = ((2 ^ 53 * d : Nat) : ℚ) * 2 ^ e := by
        rw [zpow_add₀ (by norm_num)]
        push_cast
        ring
  · cases h

theorem exact_floor {x : Dyadic} (h : x.significand ≤ 2 ^ 53) : Exact x.floor := by
  unfold Dyadic.floor
  split
  · exact ⟨x.significand, x.exponent.toNat, h, Nat.shiftLeft_eq _ _⟩
  · refine exact_of_le (Nat.le_trans ?_ h)
    rw [Nat.shiftRight_eq_div_pow]
    exact Nat.div_le_self _ _

theorem exact_floor_of_ofDecimal? {m : Nat} {e : Int} {x : Dyadic} (h : ofDecimal? m e = some x) : Exact x.floor := by
  simp only [ofDecimal?] at h
  split at h
  · cases h
    exact exact_of_le (Nat.zero_le _)
  · split at h
    · cases h
    · exact exact_floor (significand_le (Nat.pos_iff_ne_zero.mp (Nat.pow_pos (by decide))) h)

end Binary64

namespace Json5.Numeral
open Binary64

theorem exact_of_toUnsigned? {n : Numeral} {k : Nat} (h : n.toUnsigned? = some k) : Exact k ∨ k = maxUnsigned := by
  unfold toUnsigned? at h
  split at h
  · split at h
    · cases h
      exact .inl (exact_of_le (by omega))
    · cases h
  · cases h
  · obtain ⟨x, hx, rfl⟩ := Option.map_eq_some_iff.mp h
    split
    · exact .inl (exact_of_le (Nat.zero_le _))
    · rcases Nat.le_total x.floor maxUnsigned with hle | hle
      · rw [Nat.min_eq_left hle]
        exact .inl (exact_floor_of_ofDecimal? hx)
      · exact .inr (Nat.min_eq_right hle)
  · cases h
  · cases h
    exact .inl (exact_of_le (Nat.zero_le _))
  · cases h
    exact .inr rfl
  · cases h
  · cases h
    exact .inl (exact_of_le (Nat.zero_le _))

/-- What a natural number is after it was written in digits and read as an unsigned number. -/
def reread (n : Nat) : Nat := min (nearest n) maxUnsigned

/-- Numbers that were read stay as they are. -/
theorem reread_of_toUnsigned? {n : Numeral} {k : Nat} (h : n.toUnsigned? = some k) : reread k = k := by
  have hle := toUnsigned?_le h
  rcases exact_of_toUnsigned? h with hexact | rfl
  · rw [reread, nearest_of_exact hexact, Nat.min_eq_left hle]
  · decide +kernel

theorem binaryLog_one {n : Nat} (hn : n ≠ 0) : binaryLog n 1 = n.log2 := by
  have hlog : Nat.log2 1 = 0 := rfl
  have hle : 1 <<< n.log2 ≤ n := by
    rw [Nat.shiftLeft_eq, Nat.one_mul]
    exact Nat.log2_self_le hn
  simp [binaryLog, hlog, hle]

/-- The exponent that is chosen for a natural number drops its spare bits, or is negative if it has none. -/
theorem floor_natural (n : Nat) :
    (Dyadic.mk (roundQuotient (n <<< (-((n.log2 : Int) - 52)).toNat) (1 <<< ((n.log2 : Int) - 52).toNat))
      ((n.log2 : Int) - 52)).floor = nearest n := by
  have hspare : ((n.log2 : Int) - 52).toNat = spareBits n := by
    rw [spareBits]
    omega
  rcases Nat.lt_or_ge n.log2 52 with hlt | hge
  · have hnone : spareBits n = 0 := by
      rw [spareBits]
      omega
    have hself : nearest n = n := nearest_of_exact (exact_of_le (Nat.le_of_lt (by
      calc n < 2 ^ (n.log2 + 1) := Nat.lt_log2_self
        _ ≤ 2 ^ 53 := Nat.pow_le_pow_right (by decide) (by omega))))
    rw [hspare, hnone, Nat.shiftLeft_zero, roundQuotient_of_dvd Nat.one_pos (Nat.one_dvd _), Nat.div_one, hself,
      Dyadic.floor, if_neg (by dsimp only; omega), Nat.shiftLeft_eq, Nat.shiftRight_eq_div_pow,
      Nat.mul_div_cancel _ (Nat.two_pow_pos _)]
  · have hneg : (-((n.log2 : Int) - 52)).toNat = 0 := by omega
    rw [hspare, hneg, Nat.shiftLeft_zero, Nat.shiftLeft_eq, Nat.one_mul, Dyadic.floor, if_pos (by dsimp only; omega),
      Nat.shiftLeft_eq]
    simp only [hspare]
    rfl

theorem ofDecimal?_natural {n : Nat} (h : n ≤ maxUnsigned) :
    ∃ x, ofDecimal? n 0 = some x ∧ x.floor = nearest n := by
  by_cases hn : n = 0
  · subst hn
    exact ⟨⟨0, 0⟩, rfl, rfl⟩
  · have hlength : (Text.numeral n).length ≤ 20 := by
      rw [Text.numeral, Nat.length_toDigits_le_iff (by decide) (by decide)]
      exact Nat.lt_of_le_of_lt h (by decide)
    have hsmall : ¬ (n = 0 ∨ ((Text.numeral n).length : Int) + 0 < -330) := by omega
    have hlarge : ¬ (310 : Int) < (Text.numeral n).length + 0 := by omega
    have hlimit : nearest n < 1 <<< 1024 := by
      have hpow (k : Nat) (hk : 65 ≤ k) : 2 ^ 65 ≤ 1 <<< k := by
        rw [Nat.shiftLeft_eq, Nat.one_mul]
        exact Nat.pow_le_pow_right (by decide) hk
      have hle := nearest_le n
      refine Nat.lt_of_lt_of_le ?_ (hpow 1024 (by decide))
      simp only [maxUnsigned] at h
      omega
    have he : max (binaryLog n 1 - 52) (-1074) = (n.log2 : Int) - 52 := by
      rw [binaryLog_one hn]
      omega
    have hfloor := floor_natural n
    simp only [ofDecimal?, hsmall, hlarge, if_false, ofQuotient?]
    simp only [Int.toNat_zero, Int.neg_zero, Nat.pow_eq, Nat.pow_zero, Nat.mul_one, he]
    rw [if_pos (by rwa [hfloor])]
    exact ⟨_, rfl, hfloor⟩

/-- An unsigned number that is written in digits is read rounded to 53 bits and bounded by the largest number. -/
theorem toUnsigned?_natural {n : Nat} (h : n ≤ maxUnsigned) (whole : Bool) :
    (decimal .absent whole n 0).toUnsigned? = some (reread n) := by
  obtain ⟨x, hx, hfloor⟩ := ofDecimal?_natural h
  simp [toUnsigned?, hx, hfloor, reread]

theorem reread_pos {n : Nat} (h : 0 < n) : 0 < reread n := by
  have hdiv : 0 < n / 2 ^ spareBits n :=
    Nat.div_pos (two_pow_spareBits_le (Nat.pos_iff_ne_zero.mp h)) (Nat.two_pow_pos _)
  have hround : 0 < roundQuotient n (2 ^ spareBits n) := Nat.lt_of_lt_of_le hdiv (div_le_roundQuotient _ _)
  exact Nat.lt_min.mpr ⟨Nat.mul_pos hround (Nat.two_pow_pos _), by decide⟩

end Json5.Numeral
end AttributeRules
