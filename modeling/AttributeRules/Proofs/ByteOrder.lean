import Mathlib.Algebra.Group.Nat.Defs
import Mathlib.Tactic.SplitIfs
import AttributeRules.Value

/-! The order of texts.

Texts are ordered by their characters. In UTF-8 a character is a first byte, which tells the number of bytes behind it
and holds the leading digits of the code point to the base 64, and then the other digits. So of two characters the
smaller one has the smaller bytes, whatever follows (`encode_append_lt`), and the order of texts is both that of their
bytes and that of their code points (`lt_iff_bytes_lt`, `lt_iff_codePoints_lt`). -/

namespace AttributeRules.Text
open String (utf8EncodeChar)

/-- The bytes of a text in UTF-8. -/
def bytes (s : String) : List UInt8 := s.toUTF8.data.toList

def codePoints (s : String) : List Nat := s.toList.map Char.toNat

theorem bytes_eq (s : String) : bytes s = s.toList.flatMap utf8EncodeChar := by
  rw [bytes, String.toUTF8_eq_toByteArray, ← String.utf8Encode_toList, List.utf8Encode, List.toList_data_toByteArray]

/-! ### The bytes of a character -/

/-- The number of bytes behind the first one. -/
def followers (n : Nat) : Nat :=
  if n ≤ 0x7F then 0 else if n ≤ 0x7FF then 1 else if n ≤ 0xFFFF then 2 else 3

/-- What marks a first byte with so many bytes behind it. -/
def leadMark : Nat → Nat
  | 0 => 0
  | 1 => 0xC0
  | 2 => 0xE0
  | _ => 0xF0

def leadByte (n : Nat) : Nat := leadMark (followers n) + n / 64 ^ followers n

/-- The last digits to the base 64, so many, each in a byte of its own. -/
def digitBytes : Nat → Nat → List UInt8
  | 0, _ => []
  | k + 1, n => digitBytes k (n / 64) ++ [UInt8.ofNat (n % 64 + 0x80)]

theorem toNat_lt (c : Char) : c.toNat < 0x110000 := by
  rcases c.valid with h | h
  · exact Nat.lt_trans h (by decide)
  · exact h.2

theorem utf8EncodeChar_eq (c : Char) :
    utf8EncodeChar c = UInt8.ofNat (leadByte c.toNat) :: digitBytes (followers c.toNat) c.toNat := by
  have hc := toNat_lt c
  simp only [utf8EncodeChar, Char.toNat_val]
  generalize c.toNat = n at hc
  -- The first byte keeps only some bits of the leading digits, which are all that are set.
  by_cases h₁ : n ≤ 0x7F
  · have hk : followers n = 0 := by simp [followers, h₁]
    simp [h₁, hk, leadByte, leadMark, digitBytes]
  by_cases h₂ : n ≤ 0x7FF
  · have hk : followers n = 1 := by simp [followers, h₁, h₂]
    have hlead : n / 64 % 0x20 = n / 64 := Nat.mod_eq_of_lt (by omega)
    simp [h₁, h₂, hk, hlead, leadByte, leadMark, digitBytes, Nat.add_comm]
  by_cases h₃ : n ≤ 0xFFFF
  · have hk : followers n = 2 := by simp [followers, h₁, h₂, h₃]
    have hlead : n / 4096 % 0x10 = n / 4096 := Nat.mod_eq_of_lt (by omega)
    simp [h₁, h₂, h₃, hk, hlead, leadByte, leadMark, digitBytes, Nat.add_comm]
  · have hk : followers n = 3 := by simp [followers, h₁, h₂, h₃]
    have hlead : n / 262144 % 0x08 = n / 262144 := Nat.mod_eq_of_lt (by omega)
    simp [h₁, h₂, h₃, hk, hlead, leadByte, leadMark, digitBytes, Nat.add_comm, Nat.div_div_eq_div_mul]

/-- The smaller of two code points has the smaller first byte, unless both have the same leading digits in it. -/
theorem leadByte_lt_or_eq {m n : Nat} (h : m < n) (hn : n < 0x110000) :
    leadByte m < leadByte n ∨
      leadByte m = leadByte n ∧ followers m = followers n ∧ m / 64 ^ followers m = n / 64 ^ followers m := by
  unfold leadByte followers
  split_ifs <;> simp only [leadMark, Nat.reducePow, true_and] <;> omega

theorem leadByte_lt {n : Nat} (h : n < 0x110000) : leadByte n < 256 := by
  unfold leadByte followers
  split_ifs <;> simp only [leadMark, Nat.reducePow] <;> omega

/-- Where the leading digits are the same, the last ones decide, from left to right. -/
theorem digitBytes_append_lt {k m n : Nat} (h : m < n) (hlead : m / 64 ^ k = n / 64 ^ k) (s t : List UInt8) :
    digitBytes k m ++ s < digitBytes k n ++ t := by
  induction k generalizing m n s t with
  | zero =>
    simp only [Nat.pow_zero, Nat.div_one] at hlead
    exact absurd hlead (Nat.ne_of_lt h)
  | succ k ih =>
    rw [Nat.pow_succ', ← Nat.div_div_eq_div_mul, ← Nat.div_div_eq_div_mul] at hlead
    rw [digitBytes, digitBytes, List.append_assoc, List.append_assoc]
    rcases Nat.lt_or_eq_of_le (Nat.div_le_div_right (c := 64) (Nat.le_of_lt h)) with hlt | heq
    · exact ih hlt hlead _ _
    · rw [heq]
      refine List.append_left_lt (List.cons_lt_cons_iff.mpr (.inl ?_))
      simp only [UInt8.lt_iff_toNat_lt, UInt8.toNat_ofNat']
      omega

/-- The smaller of two characters has the smaller bytes, whatever follows them. -/
theorem encode_append_lt {c d : Char} (h : c < d) (s t : List UInt8) :
    utf8EncodeChar c ++ s < utf8EncodeChar d ++ t := by
  have hlt : c.toNat < d.toNat := h
  have hc := leadByte_lt (toNat_lt c)
  have hd := leadByte_lt (toNat_lt d)
  rw [utf8EncodeChar_eq, utf8EncodeChar_eq, List.cons_append, List.cons_append, List.cons_lt_cons_iff]
  rcases leadByte_lt_or_eq hlt (toNat_lt d) with hlead | ⟨hlead, hk, hdigits⟩
  · left
    rw [UInt8.lt_iff_toNat_lt, UInt8.toNat_ofNat', UInt8.toNat_ofNat', Nat.mod_eq_of_lt hc, Nat.mod_eq_of_lt hd]
    exact hlead
  · right
    rw [← hk, hlead]
    exact ⟨rfl, digitBytes_append_lt hlt hdigits s t⟩

/-! ### Texts -/

theorem flatMap_encode_lt {s t : List Char} (h : s < t) : s.flatMap utf8EncodeChar < t.flatMap utf8EncodeChar := by
  induction h with
  | nil =>
    rw [List.flatMap_nil, List.flatMap_cons, utf8EncodeChar_eq, List.cons_append]
    exact List.nil_lt_cons _ _
  | rel h => exact encode_append_lt h _ _
  | cons _ ih => exact List.append_left_lt ih

/-- A view of texts that keeps their order shows it, if no order of views goes both ways. -/
theorem lt_iff_of_keeps {α : Type} [LT α] [Std.Asymm (· < · : α → α → Prop)] (view : String → α)
    (h : ∀ {s t : String}, s < t → view s < view t) {s t : String} : s < t ↔ view s < view t := by
  refine ⟨h, fun hview => Decidable.byContradiction fun hnot => ?_⟩
  by_cases heq : s = t
  · rw [heq] at hview
    exact Std.Asymm.asymm _ _ hview hview
  · have hts : t < s := String.not_le.mp fun hle => heq (String.le_antisymm hle (String.not_lt.mp hnot))
    exact Std.Asymm.asymm _ _ hview (h hts)

theorem lt_iff_bytes_lt {s t : String} : s < t ↔ bytes s < bytes t :=
  lt_iff_of_keeps bytes fun {s t} h => by
    rw [bytes_eq, bytes_eq]
    exact flatMap_encode_lt h

theorem lt_iff_codePoints_lt {s t : String} : s < t ↔ codePoints s < codePoints t :=
  lt_iff_of_keeps codePoints fun h => List.map_lt (fun _ _ hlt => hlt) h

end AttributeRules.Text
