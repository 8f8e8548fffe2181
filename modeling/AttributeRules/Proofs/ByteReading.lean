import AttributeRules.Proofs.ByteScan

/-! Reading rules by positions in bytes.

A text can be cut at positions counted in bytes, and a cut fails if a position is inside a character or beyond the end, or
if the positions are in the wrong order (`between?_eq_some_iff`). The positions that reading takes from the scan of the
bytes, and those next to outer parentheses, are all between characters: so no cut fails, however deep the rule is, and
what is read is the rule that reading by characters gives (`readsByBytes`). -/

namespace AttributeRules
open Text

/-! ### Cuts -/

namespace Text

/-- The characters between two positions, counted in bytes; none if the positions are in the wrong order, beyond the end
or inside a character. -/
def between? (s : List Char) (first last : Nat) : Option (List Char) := if first ≤ last then slice? s first last else none

theorem dropBytes?_eq_some_iff {n : Nat} {s t : List Char} :
    dropBytes? n s = some t ↔ ∃ a, s = a ++ t ∧ byteLength a = n := by
  constructor
  · intro h
    fun_induction dropBytes? n s with
    | case1 s =>
      cases h
      exact ⟨[], rfl, rfl⟩
    | case2 n => cases h
    | case3 n c rest hle ih =>
      obtain ⟨a, rfl, ha⟩ := ih h
      exact ⟨c :: a, rfl, by rw [byteLength]; omega⟩
    | case4 n c rest hle => cases h
  · rintro ⟨a, rfl, rfl⟩
    exact dropBytes?_byteLength_append a t

theorem takeBytes?_eq_some_iff {n : Nat} {s t : List Char} :
    takeBytes? n s = some t ↔ ∃ a, s = t ++ a ∧ byteLength t = n := by
  constructor
  · intro h
    fun_induction takeBytes? n s generalizing t with
    | case1 s =>
      cases h
      exact ⟨s, rfl, rfl⟩
    | case2 n => cases h
    | case3 n c rest hle ih =>
      obtain ⟨t, ht, rfl⟩ := Option.map_eq_some_iff.mp h
      obtain ⟨a, rfl, ht⟩ := ih ht
      exact ⟨a, rfl, by rw [byteLength]; omega⟩
    | case4 n c rest hle => cases h
  · rintro ⟨a, rfl, rfl⟩
    exact takeBytes?_byteLength_append t a

/-- A cut gives the part of the text that starts and ends, between characters, at the two positions. -/
theorem between?_eq_some_iff {s t : List Char} {first last : Nat} :
    between? s first last = some t ↔ ∃ a b, s = a ++ (t ++ b) ∧ byteLength a = first ∧ byteLength (a ++ t) = last := by
  unfold between? slice?
  constructor
  · intro h
    split at h
    · obtain ⟨u, hu, ht⟩ := Option.bind_eq_some_iff.mp h
      obtain ⟨a, rfl, ha⟩ := dropBytes?_eq_some_iff.mp hu
      obtain ⟨b, rfl, hb⟩ := takeBytes?_eq_some_iff.mp ht
      exact ⟨a, b, rfl, ha, by rw [byteLength_append]; omega⟩
    · cases h
  · rintro ⟨a, b, rfl, rfl, rfl⟩
    rw [byteLength_append, if_pos (Nat.le_add_right _ _), dropBytes?_byteLength_append, Nat.add_sub_cancel_left]
    exact takeBytes?_byteLength_append t b

theorem isValid_of_toList_eq {text : String} {a b : List Char} (h : text.toList = a ++ b) :
    (⟨byteLength a⟩ : String.Pos.Raw).IsValid text := by
  refine String.Pos.Raw.isValid_iff_exists_take_toList.mpr ⟨a.length, ?_⟩
  rw [h, List.take_left, byteLength_ofList]

end Text

/-- Are the bytes at least two, with an opening parenthesis in front and a closing one at their end? -/
def isWrappedBytes (bs : List UInt8) : Bool :=
  2 ≤ bs.length && bs.head? == some '('.toUInt8 && bs.getLast? == some ')'.toUInt8

theorem eq_of_head?_bytes {c d : Char} (hd : d.toNat < 0x80) {s : List Char}
    (h : (bytes (String.ofList (c :: s))).head? = some d.toUInt8) : c = d := by
  obtain ⟨b, hs, hb⟩ := List.exists_cons_of_ne_nil (String.utf8EncodeChar_ne_nil (c := c))
  rw [bytes_ofList_cons, hb, List.cons_append, List.head?_cons, Option.some.injEq] at h
  refine eq_of_toUInt8_mem hd ?_
  rw [hb, h]
  exact List.mem_cons_self

theorem eq_of_getLast?_bytes {c d : Char} (hd : d.toNat < 0x80) {s : List Char}
    (h : (bytes (String.ofList (s ++ [c]))).getLast? = some d.toUInt8) : c = d := by
  rw [bytes_eq, String.toList_ofList, List.flatMap_append, List.flatMap_singleton, List.getLast?_append,
    List.getLast?_eq_some_getLast String.utf8EncodeChar_ne_nil, Option.some_or, Option.some.injEq] at h
  refine eq_of_toUInt8_mem hd ?_
  rw [← h]
  exact List.getLast_mem _

theorem bytes_wrap (m : List Char) :
    bytes (String.ofList ('(' :: (m ++ [')']))) = '('.toUInt8 :: (bytes (String.ofList m) ++ [')'.toUInt8]) := by
  rw [bytes_ofList_cons, bytes_eq, bytes_eq, String.toList_ofList, String.toList_ofList, List.flatMap_append]
  rfl

theorem isWrappedBytes_bytes (s : List Char) : isWrappedBytes (bytes (String.ofList s)) = isWrapped s := by
  rw [Bool.eq_iff_iff, isWrapped_iff]
  constructor
  · intro h
    simp only [isWrappedBytes, Bool.and_eq_true, decide_eq_true_eq, beq_iff_eq] at h
    obtain ⟨⟨hlength, hfirst⟩, hlast⟩ := h
    cases s with
    | nil => cases hfirst
    | cons c rest =>
      obtain rfl : c = '(' := eq_of_head?_bytes (by decide) hfirst
      rcases List.eq_nil_or_concat rest with rfl | ⟨m, d, rfl⟩
      · exact absurd hlength (by decide)
      · rw [List.concat_eq_append] at hlast ⊢
        obtain rfl : d = ')' := eq_of_getLast?_bytes (s := '(' :: m) (by decide) hlast
        exact ⟨m, rfl⟩
  · rintro ⟨m, rfl⟩
    rw [bytes_wrap]
    simp [isWrappedBytes, List.getLast?_cons]

theorem byteLength_wrap (m : List Char) : byteLength ('(' :: (m ++ [')'])) = byteLength ('(' :: m) + 1 :=
  byteLength_append ('(' :: m) [')']

/-- A trimmed text without its outer pair of parentheses, cut out by positions in bytes. -/
def unwrapByBytes? (s : List Char) : Option (List Char) :=
  if isWrappedBytes (bytes (String.ofList s)) then (between? s 1 (byteLength s - 1)).map trim else some s

theorem unwrapByBytes?_eq (s : List Char) : unwrapByBytes? s = some (unwrap s) := by
  rw [unwrapByBytes?, isWrappedBytes_bytes]
  cases h : isWrapped s with
  | false => rw [unwrap_of_not_isWrapped h, if_neg Bool.false_ne_true]
  | true =>
    obtain ⟨m, rfl⟩ := isWrapped_iff.mp h
    have hcut : between? ('(' :: (m ++ [')'])) 1 (byteLength ('(' :: (m ++ [')'])) - 1) = some m :=
      between?_eq_some_iff.mpr ⟨['('], [')'], rfl, rfl, by rw [byteLength_wrap]; rfl⟩
    rw [if_pos rfl, hcut, unwrap_wrap]
    rfl

/-- Splits a text at the first keyword in its bytes; none if one of the two cuts fails. -/
def splitByBytes? (s : List Char) : Option (Option Split) :=
  match connectiveInBytes? (bytes (String.ofList s)) with
  | none => some none
  | some (i, op) =>
    match between? s 0 i, between? s (i + op.keyword.utf8ByteSize) (byteLength s) with
    | some left, some right => some (some ⟨left, op, right⟩)
    | _, _ => none

theorem splitByBytes?_eq (s : List Char) : splitByBytes? s = some (split? s) := by
  rw [splitByBytes?, connectiveInBytes?_bytes]
  cases hx : split? s with
  | none =>
    rw [leftmostConnective?, connectiveFrom?_eq_none_iff.mpr (split?_eq_none_iff.mp hx)]
    rfl
  | some x =>
    obtain ⟨left, op, right⟩ := x
    obtain ⟨rfl, hlevel, hcovered⟩ := split?_eq_some_iff.mp hx
    have hscan : leftmostConnective? (left ++ (op.keyword.toList ++ right)) = some (left.length, op) :=
      connectiveFrom?_eq_some_iff.mpr ⟨left, right, rfl, (Nat.zero_add _).symm, by rw [hlevel]; rfl, hcovered⟩
    have hleft : between? (left ++ (op.keyword.toList ++ right)) 0 (byteLength left) = some left :=
      between?_eq_some_iff.mpr ⟨[], _, rfl, rfl, rfl⟩
    have hright : between? (left ++ (op.keyword.toList ++ right)) (byteLength left + op.keyword.utf8ByteSize)
        (byteLength (left ++ (op.keyword.toList ++ right))) = some right := by
      refine between?_eq_some_iff.mpr ⟨left ++ op.keyword.toList, [], by simp, ?_, by simp⟩
      rw [byteLength_append, byteLength_toList]
    rw [hscan]
    simp only [Option.map_some, List.take_left, hleft, hright]

namespace Rule

/-- Reads a text as a rule of at most so many levels by positions in bytes; none if a cut fails. -/
def parseByBytesWithin : Nat → List Char → Option (Option Rule)
  | 0, _ => some none
  | levels + 1, text => do
    let body ← unwrapByBytes? (trim text)
    match ← splitByBytes? body with
    | none => return some (.operand (String.ofList body))
    | some x =>
      match ← parseByBytesWithin levels x.left with
      | none => return none
      | some left =>
        match ← parseByBytesWithin levels x.right with
        | none => return none
        | some right => return some (.operator x.op left right)

/-- Reads a rule by positions in bytes; none if a cut fails. -/
def parseByBytes? (limit : Nat) (text : String) : Option (Except RuleError Rule) :=
  (parseByBytesWithin limit text.toList).map fun
    | some r => .ok r
    | none => .error (.tooDeep limit)

theorem parseByBytesWithin_eq (levels : Nat) (s : List Char) :
    parseByBytesWithin levels s = some (parseWithin levels s) := by
  induction levels generalizing s with
  | zero => rfl
  | succ levels ih =>
    simp only [parseByBytesWithin, parseWithin, unwrapByBytes?_eq, splitByBytes?_eq, ih, Option.bind_eq_bind,
      Option.bind_some]
    cases split? (unwrap (trim s)) with
    | none => rfl
    | some x =>
      cases hl : parseWithin levels x.left with
      | none => simp only [hl]; rfl
      | some left => cases hr : parseWithin levels x.right <;> simp only [hl, hr] <;> rfl

theorem parseByBytes?_eq (limit : Nat) (text : String) : parseByBytes? limit text = some (parse limit text) := by
  rw [parseByBytes?, parseByBytesWithin_eq, Option.map_some]
  unfold parse
  cases parseWithin limit text.toList <;> rfl

/-! ### Reading by bytes -/

/-- Reading a text by positions in its bytes is the same as reading it by its characters, and no position is inside a
character. -/
structure ReadsByBytes (text : String) : Prop where
  /-- The scan finds the leftmost keyword behind as many parentheses opened as closed. -/
  found : ∀ i op, connectiveInBytes? (bytes text) = some (i, op) ↔ IsFirstKeyword 0 (bytes text) i op
  missing : connectiveInBytes? (bytes text) = none ↔ ∀ i op, ¬KeywordAt 0 (bytes text) i op
  /-- It is the one that the scan of the characters finds. -/
  characters : connectiveInBytes? (bytes text) =
    (leftmostConnective? text.toList).map fun x => (byteLength (text.toList.take x.1), x.2)
  /-- The keyword starts and ends between characters. -/
  ends : ∀ i op, connectiveInBytes? (bytes text) = some (i, op) →
    (⟨i⟩ : String.Pos.Raw).IsValid text ∧ (⟨i + op.keyword.utf8ByteSize⟩ : String.Pos.Raw).IsValid text
  wrapped : isWrappedBytes (bytes text) = isWrapped text.toList
  /-- What stands inside the outer parentheses starts and ends between characters. -/
  inside : isWrappedBytes (bytes text) = true → 1 ≤ text.utf8ByteSize - 1 ∧
    (⟨1⟩ : String.Pos.Raw).IsValid text ∧ (⟨text.utf8ByteSize - 1⟩ : String.Pos.Raw).IsValid text
  /-- No cut fails, at no level of the rule. -/
  read : ∀ limit, parseByBytes? limit text = some (parse limit text)

theorem ends_of_connectiveInBytes? {text : String} {i : Nat} {op : Connective}
    (h : connectiveInBytes? (bytes text) = some (i, op)) :
    (⟨i⟩ : String.Pos.Raw).IsValid text ∧ (⟨i + op.keyword.utf8ByteSize⟩ : String.Pos.Raw).IsValid text := by
  rw [← String.ofList_toList (s := text), connectiveInBytes?_bytes] at h
  obtain ⟨⟨n, op'⟩, hscan, heq⟩ := Option.map_eq_some_iff.mp h
  obtain ⟨before, after, htext, hn, -, -⟩ := connectiveFrom?_eq_some_iff.mp hscan
  rw [Nat.zero_add] at hn
  rw [hn, htext, List.take_left] at heq
  cases heq
  refine ⟨isValid_of_toList_eq htext, ?_⟩
  rw [← byteLength_toList, ← byteLength_append]
  exact isValid_of_toList_eq (by rw [htext, List.append_assoc])

theorem inside_of_isWrappedBytes {text : String} (h : isWrappedBytes (bytes text) = true) :
    1 ≤ text.utf8ByteSize - 1 ∧
      (⟨1⟩ : String.Pos.Raw).IsValid text ∧ (⟨text.utf8ByteSize - 1⟩ : String.Pos.Raw).IsValid text := by
  rw [← String.ofList_toList (s := text), isWrappedBytes_bytes, isWrapped_iff] at h
  obtain ⟨m, hm⟩ := h
  have hsize : text.utf8ByteSize - 1 = byteLength ('(' :: m) := by
    rw [← byteLength_toList, hm, byteLength_wrap, Nat.add_sub_cancel]
  rw [hsize]
  refine ⟨Nat.le_add_right _ _, isValid_of_toList_eq (a := ['(']) hm, isValid_of_toList_eq (a := '(' :: m) hm⟩

theorem readsByBytes (text : String) : ReadsByBytes text where
  found _ _ := connectiveInBytes?_eq_some_iff
  missing := connectiveInBytes?_eq_none_iff
  characters := by rw [← connectiveInBytes?_bytes, String.ofList_toList]
  ends _ _ := ends_of_connectiveInBytes?
  wrapped := by rw [← isWrappedBytes_bytes, String.ofList_toList]
  inside := inside_of_isWrappedBytes
  read limit := parseByBytes?_eq limit text

end Rule
end AttributeRules
