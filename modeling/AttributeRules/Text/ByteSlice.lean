/-! Parts of a text between two positions, which are counted in bytes of UTF-8. -/

namespace AttributeRules.Text

def byteLength : List Char → Nat
  | [] => 0
  | c :: rest => c.utf8Size + byteLength rest

/-- What is left after so many bytes; none if the text ends before, or a character does not end there. -/
def dropBytes? : Nat → List Char → Option (List Char)
  | 0, s => some s
  | _ + 1, [] => none
  | n + 1, c :: rest => if c.utf8Size ≤ n + 1 then dropBytes? (n + 1 - c.utf8Size) rest else none

/-- The first so many bytes; none if the text ends before, or a character does not end there. -/
def takeBytes? : Nat → List Char → Option (List Char)
  | 0, _ => some []
  | _ + 1, [] => none
  | n + 1, c :: rest =>
    if c.utf8Size ≤ n + 1 then (takeBytes? (n + 1 - c.utf8Size) rest).map (c :: ·) else none

def slice? (s : List Char) (first last : Nat) : Option (List Char) :=
  (dropBytes? first s).bind (takeBytes? (last - first))

/-! ### A text in front of another -/

theorem dropBytes?_byteLength_append (s t : List Char) : dropBytes? (byteLength s) (s ++ t) = some t := by
  induction s with
  | nil => cases t <;> rfl
  | cons c s ih =>
    obtain ⟨n, hn⟩ := Nat.exists_eq_succ_of_ne_zero (Nat.ne_of_gt c.utf8Size_pos)
    simp only [byteLength, List.cons_append, hn, Nat.succ_add]
    unfold dropBytes?
    rw [hn, if_pos (by omega), show n + byteLength s + 1 - n.succ = byteLength s by omega]
    exact ih

theorem takeBytes?_byteLength_append (s t : List Char) : takeBytes? (byteLength s) (s ++ t) = some s := by
  induction s with
  | nil => cases t <;> rfl
  | cons c s ih =>
    obtain ⟨n, hn⟩ := Nat.exists_eq_succ_of_ne_zero (Nat.ne_of_gt c.utf8Size_pos)
    simp only [byteLength, List.cons_append, hn, Nat.succ_add]
    unfold takeBytes?
    rw [hn, if_pos (by omega), show n + byteLength s + 1 - n.succ = byteLength s by omega,
      ih]
    rfl

end AttributeRules.Text
