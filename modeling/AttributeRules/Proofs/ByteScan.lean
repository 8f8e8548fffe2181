import AttributeRules.Proofs.ByteOrder
import AttributeRules.Proofs.TreeOfText

/-! The scan for keywords over the bytes of a text.

Keywords and parentheses are ASCII, so a text can be scanned for them byte by byte. The scan ends at the first position
where a keyword stands behind as many parentheses opened as closed, or finds that there is none
(`connectiveFromBytes?_cases`). All bytes of a character beyond ASCII are above those of keywords and parentheses, so the
scan passes over it as over one character without a meaning, and it finds a keyword where the scan of the characters does
(`connectiveFromBytes?_bytes`). -/

namespace AttributeRules
open Text
open String (utf8EncodeChar)

/-! ### The scan -/

/-- The connective whose keyword some bytes start with. -/
def connectiveOfStart? (bs : List UInt8) : Option Connective :=
  if bytes Connective.and.keyword <+: bs then some .and
  else if bytes Connective.or.keyword <+: bs then some .or
  else none

/-- The leftmost keyword that stands where no parenthesis is open, and its position, in bytes that start at a position
with so many parentheses open. -/
def connectiveFromBytes? (nesting : Int) (position : Nat) : List UInt8 → Option (Nat × Connective)
  | [] => none
  | b :: rest =>
    if b = '('.toUInt8 then connectiveFromBytes? (nesting + 1) (position + 1) rest
    else if b = ')'.toUInt8 then connectiveFromBytes? (nesting - 1) (position + 1) rest
    else
      match if nesting = 0 then connectiveOfStart? (b :: rest) else none with
      | some op => some (position, op)
      | none => connectiveFromBytes? nesting (position + 1) rest

/-- The leftmost keyword outside all parentheses in some bytes, and its position. -/
def connectiveInBytes? (bs : List UInt8) : Option (Nat × Connective) := connectiveFromBytes? 0 0 bs

/-- The keyword of a connective stands at a position of some bytes, and there the parentheses opened, with so many open
in front of the bytes, are as many as those closed. -/
structure KeywordAt (nesting : Int) (bs : List UInt8) (position : Nat) (op : Connective) : Prop where
  level : nesting + (bs.take position).count '('.toUInt8 = (bs.take position).count ')'.toUInt8
  keyword : bytes op.keyword <+: bs.drop position

/-- What a byte adds to the number of open parentheses. -/
def byteBalance (b : UInt8) : Int := ([b].count '('.toUInt8 : Int) - [b].count ')'.toUInt8

section Scan
variable {k : Int} {p i : Nat} {b : UInt8} {bs : List UInt8} {op : Connective}

theorem bytes_and : bytes Connective.and.keyword = [0x41, 0x4E, 0x44] := by decide

theorem bytes_or : bytes Connective.or.keyword = [0x4F, 0x52] := by decide

/-- A keyword starts with a letter, which is ASCII and no parenthesis. -/
theorem first_of_keyword (h : bytes op.keyword <+: b :: bs) : b = 0x41 ∧ op = .and ∨ b = 0x4F ∧ op = .or := by
  cases op with
  | and =>
    rw [bytes_and, List.cons_prefix_cons] at h
    exact .inl ⟨h.1.symm, rfl⟩
  | or =>
    rw [bytes_or, List.cons_prefix_cons] at h
    exact .inr ⟨h.1.symm, rfl⟩

theorem keyword_unique {op' : Connective} (h : bytes op.keyword <+: bs) (h' : bytes op'.keyword <+: bs) : op = op' := by
  cases bs with
  | nil => cases op <;> exact absurd (List.prefix_nil.mp h) (by decide)
  | cons b bs =>
    rcases first_of_keyword h with ⟨rfl, rfl⟩ | ⟨rfl, rfl⟩ <;> rcases first_of_keyword h' with ⟨hb, rfl⟩ | ⟨hb, rfl⟩
    · rfl
    · exact absurd hb (by decide)
    · exact absurd hb (by decide)
    · rfl

theorem connectiveOfStart?_eq_some_iff : connectiveOfStart? bs = some op ↔ bytes op.keyword <+: bs := by
  unfold connectiveOfStart?
  constructor
  · intro h
    split at h
    · cases h
      assumption
    · split at h
      · cases h
        assumption
      · cases h
  · intro h
    cases op with
    | and => rw [if_pos h]
    | or =>
      have hand : ¬bytes Connective.and.keyword <+: bs := fun hand => nomatch keyword_unique h hand
      rw [if_neg hand, if_pos h]

theorem connectiveOfStart?_eq_none (hand : b ≠ 0x41) (hor : b ≠ 0x4F) : connectiveOfStart? (b :: bs) = none := by
  refine Option.eq_none_iff_forall_ne_some.mpr fun op hop => ?_
  rcases first_of_keyword (connectiveOfStart?_eq_some_iff.mp hop) with ⟨hb, -⟩ | ⟨hb, -⟩
  · exact hand hb
  · exact hor hb

theorem keywordAt_zero_iff : KeywordAt k bs 0 op ↔ k = 0 ∧ bytes op.keyword <+: bs := by
  constructor
  · rintro ⟨hlevel, hkeyword⟩
    exact ⟨by simpa using hlevel, hkeyword⟩
  · rintro ⟨rfl, hkeyword⟩
    exact ⟨rfl, hkeyword⟩

theorem keywordAt_succ_iff : KeywordAt k (b :: bs) (i + 1) op ↔ KeywordAt (k + byteBalance b) bs i op := by
  have hlevel : k + ((b :: bs).take (i + 1)).count '('.toUInt8 = ((b :: bs).take (i + 1)).count ')'.toUInt8 ↔
      k + byteBalance b + (bs.take i).count '('.toUInt8 = (bs.take i).count ')'.toUInt8 := by
    rw [List.take_succ_cons, ← List.singleton_append, List.count_append, List.count_append, byteBalance]
    omega
  exact ⟨fun h => ⟨hlevel.mp h.level, h.keyword⟩, fun h => ⟨hlevel.mpr h.level, h.keyword⟩⟩

/-- A parenthesis starts no keyword, so none is looked for there. -/
theorem connectiveFromBytes?_cons (k : Int) (p : Nat) (b : UInt8) (bs : List UInt8) :
    connectiveFromBytes? k p (b :: bs) =
      (if k = 0 then (connectiveOfStart? (b :: bs)).map (p, ·) else none).or
        (connectiveFromBytes? (k + byteBalance b) (p + 1) bs) := by
  rw [connectiveFromBytes?]
  by_cases hopen : b = '('.toUInt8
  · subst hopen
    rw [if_pos rfl, connectiveOfStart?_eq_none (by decide) (by decide), Option.map_none, ite_self, Option.none_or]
    rfl
  by_cases hclose : b = ')'.toUInt8
  · subst hclose
    rw [if_neg hopen, if_pos rfl, connectiveOfStart?_eq_none (by decide) (by decide), Option.map_none, ite_self,
      Option.none_or]
    rfl
  have hbalance : byteBalance b = 0 := by simp [byteBalance, hopen, hclose]
  rw [if_neg hopen, if_neg hclose, hbalance, Int.add_zero]
  by_cases hk : k = 0
  · rw [if_pos hk, if_pos hk]
    cases connectiveOfStart? (b :: bs) <;> rfl
  · rw [if_neg hk, if_neg hk, Option.none_or]

/-- A keyword stands at the position outside all parentheses, and none does so further left. -/
def IsFirstKeyword (nesting : Int) (bs : List UInt8) (position : Nat) (op : Connective) : Prop :=
  KeywordAt nesting bs position op ∧ ∀ i op', KeywordAt nesting bs i op' → position ≤ i

theorem IsFirstKeyword.unique {i' : Nat} {op' : Connective} (h : IsFirstKeyword k bs i op)
    (h' : IsFirstKeyword k bs i' op') : i = i' ∧ op = op' := by
  obtain rfl : i = i' := Nat.le_antisymm (h.2 i' op' h'.1) (h'.2 i op h.1)
  exact ⟨rfl, keyword_unique h.1.keyword h'.1.keyword⟩

/-- The scan ends at the first keyword, or where there is none. -/
theorem connectiveFromBytes?_cases (k : Int) (p : Nat) (bs : List UInt8) :
    (connectiveFromBytes? k p bs = none ∧ ∀ i op, ¬KeywordAt k bs i op) ∨
      ∃ i op, connectiveFromBytes? k p bs = some (p + i, op) ∧ IsFirstKeyword k bs i op := by
  induction bs generalizing k p with
  | nil =>
    refine .inl ⟨rfl, fun i op h => ?_⟩
    have hkeyword := h.keyword
    rw [List.drop_nil, List.prefix_nil] at hkeyword
    cases op <;> exact absurd hkeyword (by decide)
  | cons b bs ih =>
    rw [connectiveFromBytes?_cons]
    by_cases hstart : k = 0 ∧ ∃ op : Connective, bytes op.keyword <+: b :: bs
    · obtain ⟨hk, op, hop⟩ := hstart
      refine .inr ⟨0, op, ?_, keywordAt_zero_iff.mpr ⟨hk, hop⟩, fun _ _ _ => Nat.zero_le _⟩
      rw [if_pos hk, connectiveOfStart?_eq_some_iff.mpr hop]
      rfl
    · have hhead : (if k = 0 then (connectiveOfStart? (b :: bs)).map (p, ·) else none) = none := by
        split
        · rename_i hk
          refine Option.map_eq_none_iff.mpr (Option.eq_none_iff_forall_ne_some.mpr fun op hop => ?_)
          exact hstart ⟨hk, op, connectiveOfStart?_eq_some_iff.mp hop⟩
        · rfl
      have hzero : ∀ op, ¬KeywordAt k (b :: bs) 0 op := fun op h =>
        hstart ⟨(keywordAt_zero_iff.mp h).1, op, (keywordAt_zero_iff.mp h).2⟩
      rw [hhead, Option.none_or]
      rcases ih (k + byteBalance b) (p + 1) with ⟨hscan, hnone⟩ | ⟨i, op, hscan, hat, hfirst⟩
      · refine .inl ⟨hscan, fun i op h => ?_⟩
        cases i with
        | zero => exact hzero op h
        | succ i => exact hnone i op (keywordAt_succ_iff.mp h)
      · refine .inr
          ⟨i + 1, op, by rw [hscan, Nat.add_assoc, Nat.add_comm 1 i], keywordAt_succ_iff.mpr hat, fun j op' h => ?_⟩
        cases j with
        | zero => exact absurd h (hzero op')
        | succ j => exact Nat.succ_le_succ (hfirst j op' (keywordAt_succ_iff.mp h))

theorem connectiveInBytes?_eq_some_iff : connectiveInBytes? bs = some (i, op) ↔ IsFirstKeyword 0 bs i op := by
  unfold connectiveInBytes?
  rcases connectiveFromBytes?_cases 0 0 bs with ⟨hscan, hnone⟩ | ⟨j, op', hscan, hfirst⟩
  · rw [hscan]
    exact iff_of_false nofun fun h => hnone i op h.1
  · rw [hscan, Nat.zero_add]
    constructor
    · intro h
      cases h
      exact hfirst
    · intro h
      obtain ⟨rfl, rfl⟩ := hfirst.unique h
      rfl

/-- Behind more parentheses closed than opened a keyword does not count; `ü` takes two bytes. -/
example : connectiveInBytes? (bytes "ü)OR(AND b") = some (6, .and) := by decide

theorem connectiveInBytes?_eq_none_iff : connectiveInBytes? bs = none ↔ ∀ i op, ¬KeywordAt 0 bs i op := by
  unfold connectiveInBytes?
  rcases connectiveFromBytes?_cases 0 0 bs with ⟨hscan, hnone⟩ | ⟨j, op', hscan, hfirst⟩
  · exact iff_of_true hscan hnone
  · rw [hscan]
    exact iff_of_false nofun fun h => h j op' hfirst.1

end Scan

/-! ### Bytes of characters -/

namespace Text

theorem bytes_ofList_cons (c : Char) (s : List Char) :
    bytes (String.ofList (c :: s)) = utf8EncodeChar c ++ bytes (String.ofList s) := by
  rw [bytes_eq, bytes_eq, String.toList_ofList, String.toList_ofList, List.flatMap_cons]

theorem utf8EncodeChar_of_ascii {c : Char} (h : c.toNat < 0x80) : utf8EncodeChar c = [c.toUInt8] :=
  String.utf8EncodeChar_eq_singleton (Char.utf8Size_eq_one_iff.mpr (Nat.le_of_lt_succ h))

theorem toUInt8_inj_of_ascii {c d : Char} (hc : c.toNat < 0x80) (hd : d.toNat < 0x80) (h : c.toUInt8 = d.toUInt8) :
    c = d := by
  have hmod : c.toNat % 256 = d.toNat % 256 := congrArg UInt8.toNat h
  exact Char.toNat_inj.mp (by omega)

theorem le_of_mem_digitBytes {k n : Nat} {b : UInt8} (h : b ∈ digitBytes k n) : 0x80 ≤ b := by
  induction k generalizing n with
  | zero => cases h
  | succ k ih =>
    rcases List.mem_append.mp h with h | h
    · exact ih h
    · rw [List.mem_singleton.mp h, UInt8.le_iff_toNat_le, UInt8.toNat_ofNat']
      show 128 ≤ _
      omega

/-- No byte of a character beyond ASCII is itself ASCII. -/
theorem le_of_mem_utf8EncodeChar {c : Char} (hc : 0x80 ≤ c.toNat) {b : UInt8} (h : b ∈ utf8EncodeChar c) : 0x80 ≤ b := by
  rw [utf8EncodeChar_eq] at h
  rcases List.mem_cons.mp h with rfl | h
  · have hlt := leadByte_lt (toNat_lt c)
    have hle : 0x80 ≤ leadByte c.toNat := by
      unfold leadByte followers
      split_ifs <;> simp only [leadMark] <;> omega
    rw [UInt8.le_iff_toNat_le, UInt8.toNat_ofNat', Nat.mod_eq_of_lt hlt]
    exact hle
  · exact le_of_mem_digitBytes h

/-- The byte of an ASCII character stands in the bytes of no other character. -/
theorem eq_of_toUInt8_mem {c d : Char} (hd : d.toNat < 0x80) (h : d.toUInt8 ∈ utf8EncodeChar c) : c = d := by
  by_cases hc : c.toNat < 0x80
  · rw [utf8EncodeChar_of_ascii hc, List.mem_singleton] at h
    exact (toUInt8_inj_of_ascii hd hc h).symm
  · have hle : 0x80 ≤ d.toUInt8.toNat := le_of_mem_utf8EncodeChar (Nat.le_of_not_lt hc) h
    have hmod : d.toUInt8.toNat = d.toNat % 256 := rfl
    omega

/-- The bytes of a text start with those of another one just if its characters do. -/
theorem bytes_prefix_iff {s t : String} : bytes s <+: bytes t ↔ s.toList <+: t.toList := by
  rw [bytes_eq, bytes_eq]
  constructor
  · rintro ⟨rest, h⟩
    refine List.isPrefix_of_utf8Encode_append_eq_utf8Encode rest.toByteArray ?_
    rw [List.utf8Encode, List.utf8Encode, ← h, List.toByteArray_append]
  · rintro ⟨rest, h⟩
    exact ⟨rest.flatMap utf8EncodeChar, by rw [← h, List.flatMap_append]⟩

end Text

theorem connectiveOfStart?_bytes (s : List Char) :
    connectiveOfStart? (bytes (String.ofList s)) = Connective.ofStart? s := by
  refine Option.ext fun op => ?_
  rw [connectiveOfStart?_eq_some_iff, bytes_prefix_iff, String.toList_ofList, ofStart?_eq_some_iff]
  exact ⟨fun ⟨after, h⟩ => ⟨after, h.symm⟩, fun ⟨after, h⟩ => ⟨after, h.symm⟩⟩

/-! ### The scan of a text -/

theorem ne_of_high {b d : UInt8} (hb : 0x80 ≤ b) (hd : d < 0x80) : b ≠ d :=
  fun heq => UInt8.not_le.mpr hd (heq ▸ hb)

/-- The scan passes over bytes that are not ASCII. -/
theorem connectiveFromBytes?_append {hs : List UInt8} (h : ∀ b ∈ hs, 0x80 ≤ b) (k : Int) (p : Nat) (bs : List UInt8) :
    connectiveFromBytes? k p (hs ++ bs) = connectiveFromBytes? k (p + hs.length) bs := by
  induction hs generalizing p with
  | nil => rfl
  | cons b hs ih =>
    obtain ⟨hb, hhs⟩ := List.forall_mem_cons.mp h
    have hopen : b ≠ '('.toUInt8 := ne_of_high hb (by decide)
    have hclose : b ≠ ')'.toUInt8 := ne_of_high hb (by decide)
    have hbalance : byteBalance b = 0 := by simp [byteBalance, hopen, hclose]
    rw [List.cons_append, connectiveFromBytes?_cons,
      connectiveOfStart?_eq_none (ne_of_high hb (by decide)) (ne_of_high hb (by decide)), Option.map_none, ite_self,
      Option.none_or, hbalance, Int.add_zero, ih hhs, List.length_cons, Nat.add_assoc, Nat.add_comm 1]

theorem byteBalance_toUInt8 {c : Char} (hc : c.toNat < 0x80) : byteBalance c.toUInt8 = balance [c] := by
  by_cases hopen : c = '('
  · rw [hopen]
    rfl
  by_cases hclose : c = ')'
  · rw [hclose]
    rfl
  have hopen' : c.toUInt8 ≠ '('.toUInt8 := fun h => hopen (toUInt8_inj_of_ascii hc (by decide) h)
  have hclose' : c.toUInt8 ≠ ')'.toUInt8 := fun h => hclose (toUInt8_inj_of_ascii hc (by decide) h)
  simp [byteBalance, balance, hopen, hclose, hopen', hclose']

/-- The scan takes the bytes of one character together, as the scan of the characters takes the character. -/
theorem connectiveFromBytes?_bytes_cons (k : Int) (p : Nat) (c : Char) (s : List Char) :
    connectiveFromBytes? k p (bytes (String.ofList (c :: s))) =
      (if k = 0 then (Connective.ofStart? (c :: s)).map (p, ·) else none).or
        (connectiveFromBytes? (k + balance [c]) (p + c.utf8Size) (bytes (String.ofList s))) := by
  rw [← connectiveOfStart?_bytes]
  by_cases hc : c.toNat < 0x80
  · have hsize : c.utf8Size = 1 := Char.utf8Size_eq_one_iff.mpr (Nat.le_of_lt_succ hc)
    rw [bytes_ofList_cons, utf8EncodeChar_of_ascii hc, List.singleton_append, connectiveFromBytes?_cons,
      byteBalance_toUInt8 hc, hsize]
  · have hhigh : ∀ b ∈ utf8EncodeChar c, 0x80 ≤ b := fun b => le_of_mem_utf8EncodeChar (Nat.le_of_not_lt hc)
    have hstart : connectiveOfStart? (bytes (String.ofList (c :: s))) = none := by
      obtain ⟨b, hs, hb⟩ := List.exists_cons_of_ne_nil (String.utf8EncodeChar_ne_nil (c := c))
      have hle : 0x80 ≤ b := hhigh b (hb ▸ List.mem_cons_self)
      rw [bytes_ofList_cons, hb]
      exact connectiveOfStart?_eq_none (ne_of_high hle (by decide)) (ne_of_high hle (by decide))
    have hbalance : balance [c] = 0 := by
      refine NoParen.balance_eq fun d hd => ?_
      rw [List.mem_singleton.mp hd]
      exact ⟨fun h => hc (h ▸ by decide), fun h => hc (h ▸ by decide)⟩
    rw [hstart, Option.map_none, ite_self, Option.none_or, hbalance, Int.add_zero, bytes_ofList_cons,
      connectiveFromBytes?_append hhigh, String.length_utf8EncodeChar]

/-- Bytes and characters are scanned alike: where the characters have their first keyword, so have the bytes, behind the
bytes of the characters in front. -/
theorem connectiveFromBytes?_bytes (k : Int) (p q : Nat) (s : List Char) :
    connectiveFromBytes? k q (bytes (String.ofList s)) =
      (connectiveFrom? k p s).map fun x => (q + byteLength (s.take (x.1 - p)), x.2) := by
  induction s generalizing k p q with
  | nil => rfl
  | cons c s ih =>
    rw [connectiveFromBytes?_bytes_cons, connectiveFrom?_cons, ih _ (p + 1), Option.map_or]
    refine congrArg₂ Option.or ?_ ?_
    · split
      · cases Connective.ofStart? (c :: s) <;> simp [byteLength]
      · rfl
    · refine Option.map_congr fun x hx => ?_
      obtain ⟨before, -, -, hi, -⟩ := connectiveFrom?_eq_some_iff.mp hx
      have hshift : x.1 - p = (x.1 - (p + 1)) + 1 := by omega
      rw [hshift, List.take_succ_cons, byteLength, Nat.add_assoc]

theorem connectiveInBytes?_bytes (s : List Char) :
    connectiveInBytes? (bytes (String.ofList s)) =
      (leftmostConnective? s).map fun x => (byteLength (s.take x.1), x.2) := by
  rw [connectiveInBytes?, connectiveFromBytes?_bytes 0 0, leftmostConnective?]
  simp only [Nat.zero_add, Nat.sub_zero]

end AttributeRules
