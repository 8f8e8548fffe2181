import AttributeRules.Text.Decimal

/-! Unsigned numbers and how they are spelled.

Digits are read from the left against a bound, and a number that exceeds it once does so with every further digit
(`le_ofDigitChars`). So a text is read exactly if it spells a number within the bound, whatever its length
(`readNumber_eq_ok_iff`). -/

namespace AttributeRules.Text

/-- The text spells the number: at least one digit, and maybe a plus sign in front. -/
def SpellsNumber (s : List Char) (n : Nat) : Prop :=
  ∃ digits, digits ≠ [] ∧ (∀ c ∈ digits, c.isDigit = true) ∧ (s = digits ∨ s = '+' :: digits) ∧ numeralValue digits = n

theorem le_ofDigitChars (s : List Char) (value : Nat) : value ≤ Nat.ofDigitChars 10 s value := by
  rw [Nat.ofDigitChars_eq_ofDigitChars_zero]
  have hpow : 1 ≤ 10 ^ s.length := Nat.one_le_pow _ _ (by decide)
  have hmul : 1 * value ≤ 10 ^ s.length * value := Nat.mul_le_mul_right value hpow
  omega

theorem readDigits_eq_ok_iff {bound n : Nat} {s : List Char} {value : Nat} (hvalue : value ≤ bound) :
    readDigits bound value s = .ok n ↔
      (∀ c ∈ s, c.isDigit = true) ∧ Nat.ofDigitChars 10 s value = n ∧ n ≤ bound := by
  induction s generalizing value with
  | nil =>
    rw [readDigits, Nat.ofDigitChars_nil, Except.ok.injEq]
    exact ⟨fun h => ⟨List.forall_mem_nil _, h, h ▸ hvalue⟩, fun h => h.2.1⟩
  | cons c rest ih =>
    rw [readDigits, Nat.ofDigitChars_cons, List.forall_mem_cons, Nat.mul_comm 10 value]
    by_cases hc : c.isDigit = true
    · rw [if_pos hc]
      by_cases hnext : value * 10 + (c.toNat - '0'.toNat) ≤ bound
      · simp only [if_pos hnext, ih hnext, hc, true_and]
      · -- The bound is exceeded, and no further digit leads back.
        simp only [if_neg hnext]
        refine iff_of_false nofun fun ⟨_, hn, hle⟩ => hnext (Nat.le_trans (le_ofDigitChars rest _) ?_)
        rwa [hn]
    · rw [if_neg hc]
      exact iff_of_false nofun fun h => hc h.1.1

theorem readNumber_plus {bound : Nat} {rest : List Char} (hrest : rest ≠ []) :
    readNumber bound ('+' :: rest) = readDigits bound 0 rest := by
  cases rest with
  | nil => exact absurd rfl hrest
  | cons c rest => rfl

theorem readNumber_cons {bound : Nat} {c : Char} (hc : c ≠ '+') (rest : List Char) :
    readNumber bound (c :: rest) = readDigits bound 0 (c :: rest) := by
  unfold readNumber
  split
  · cases ‹c :: rest = []›
  · cases ‹c :: rest = ['+']›
    exact absurd rfl hc
  · cases ‹c :: rest = '+' :: _›
    exact absurd rfl hc
  · rfl

theorem ne_plus_of_isDigit {c : Char} (h : c.isDigit = true) : c ≠ '+' := by
  rintro rfl
  exact absurd h (by decide)

/-- Reading accepts the texts that spell a number within the bound. -/
theorem readNumber_eq_ok_iff {bound n : Nat} {s : List Char} :
    readNumber bound s = .ok n ↔ SpellsNumber s n ∧ n ≤ bound := by
  constructor
  · intro h
    cases s with
    | nil => cases h
    | cons c rest =>
      by_cases hc : c = '+'
      · subst hc
        have hrest : rest ≠ [] := by
          rintro rfl
          cases h
        rw [readNumber_plus hrest, readDigits_eq_ok_iff (Nat.zero_le _)] at h
        exact ⟨⟨rest, hrest, h.1, .inr rfl, h.2.1⟩, h.2.2⟩
      · rw [readNumber_cons hc, readDigits_eq_ok_iff (Nat.zero_le _)] at h
        exact ⟨⟨c :: rest, List.cons_ne_nil c rest, h.1, .inl rfl, h.2.1⟩, h.2.2⟩
  · rintro ⟨⟨digits, hne, hdigits, rfl | rfl, hn⟩, hle⟩
    · obtain ⟨c, rest, rfl⟩ := List.exists_cons_of_ne_nil hne
      rw [readNumber_cons (ne_plus_of_isDigit (hdigits c List.mem_cons_self)), readDigits_eq_ok_iff (Nat.zero_le _)]
      exact ⟨hdigits, hn, hle⟩
    · rw [readNumber_plus hne, readDigits_eq_ok_iff (Nat.zero_le _)]
      exact ⟨hdigits, hn, hle⟩

theorem readNumber_numeral {bound n : Nat} (h : n ≤ bound) : readNumber bound (numeral n) = .ok n := by
  refine readNumber_eq_ok_iff.mpr ⟨⟨numeral n, Nat.toDigits_ne_nil, fun _ => ?_, .inl rfl, numeralValue_numeral n⟩, h⟩
  exact isDigit_of_mem_numeral

/-! ### Numerals without needless zeros -/

theorem toNat_sub_lt_ten {c : Char} (hc : c.isDigit = true) : c.toNat - '0'.toNat < 10 := by
  have hhigh : c.toNat ≤ 57 := (Char.isDigit_iff_toNat.mp hc).2
  have hzero : '0'.toNat = 48 := rfl
  omega

theorem digitChar_of_isDigit {c : Char} (hc : c.isDigit = true) : Nat.digitChar (c.toNat - '0'.toNat) = c := by
  have hlow : 48 ≤ c.toNat := (Char.isDigit_iff_toNat.mp hc).1
  have hzero : '0'.toNat = 48 := rfl
  apply Char.toNat_inj.mp
  rw [Nat.toNat_digitChar_of_lt_ten (toNat_sub_lt_ten hc)]
  omega

/-- Digits that follow a numeral continue it. -/
theorem numeral_ofDigitChars {n : Nat} (hn : 0 < n) {s : List Char} (hs : ∀ c ∈ s, c.isDigit = true) :
    numeral (Nat.ofDigitChars 10 s n) = numeral n ++ s := by
  induction s generalizing n with
  | nil => rw [Nat.ofDigitChars_nil, List.append_nil]
  | cons c s ih =>
    obtain ⟨hc, hs⟩ := List.forall_mem_cons.mp hs
    have hdigit := toNat_sub_lt_ten hc
    rw [Nat.ofDigitChars_cons, ih (by omega) hs, numeral, ← Nat.toDigits_append_toDigits (by decide) hn hdigit,
      Nat.toDigits_of_lt_base hdigit, digitChar_of_isDigit hc, List.append_assoc, List.singleton_append, numeral]

/-- Digits are the numeral of their value, unless a zero stands in front of others. -/
theorem numeral_numeralValue {c : Char} {s : List Char} (hc : c.isDigit = true) (hs : ∀ d ∈ s, d.isDigit = true)
    (hzero : c = '0' → s = []) : numeral (numeralValue (c :: s)) = c :: s := by
  by_cases h : c = '0'
  · rw [hzero h, h]
    rfl
  · have hlow := (Char.isDigit_iff_toNat.mp hc).1
    have hne : c.toNat ≠ '0'.toNat := fun heq => h (Char.toNat_inj.mp heq)
    rw [numeralValue, Nat.ofDigitChars_cons, Nat.mul_zero, Nat.zero_add, numeral_ofDigitChars (by omega) hs, numeral,
      Nat.toDigits_of_lt_base (toNat_sub_lt_ten hc), digitChar_of_isDigit hc, List.singleton_append]

end AttributeRules.Text
