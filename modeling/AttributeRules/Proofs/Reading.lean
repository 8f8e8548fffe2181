import AttributeRules.Proofs.Nesting

/-! The tree of a text.

Reading within a limit only decides whether the tree of the text may have its depth: the tree itself is read
without a limit, by recursion on the length of the text (`parse_eq`). A text with as many parentheses opened as
closed has a tree whose operands are all settled: trimmed, of balance zero, and with every keyword inside
parentheses. -/

namespace AttributeRules
open Text

/-! ### The body of a text -/

/-- What is split when a text is read: the text trimmed and unwrapped. -/
def bodyOf (s : List Char) : List Char := unwrap (trim s)

theorem bare_bodyOf (s : List Char) : Bare (bodyOf s) := bare_unwrap (bare_trim s)

@[simp] theorem balance_bodyOf (s : List Char) : balance (bodyOf s) = balance s := by
  rw [bodyOf, balance_unwrap, balance_trim]

theorem length_bodyOf_le (s : List Char) : (bodyOf s).length ≤ s.length :=
  Nat.le_trans (length_unwrap_le _) (length_trim_le s)

theorem bodyOf_congr {s t : List Char} (h : trim s = trim t) : bodyOf s = bodyOf t := by
  rw [bodyOf, h, bodyOf]

theorem bodyOf_wrap (m : List Char) : bodyOf ('(' :: (m ++ [')'])) = trim m := by
  rw [bodyOf, trim_of_bare (bare_wrap m), unwrap_wrap]

theorem bodyOf_of_not_isWrapped {s : List Char} (hs : Bare s) (h : isWrapped s = false) : bodyOf s = s := by
  rw [bodyOf, trim_of_bare hs, unwrap_of_not_isWrapped h]

/-- Both sides of the split of a text are shorter than the text, by the keyword at least. -/
theorem length_sides_lt {s : List Char} {x : Split} (h : split? (bodyOf s) = some x) :
    x.left.length < s.length ∧ x.right.length < s.length := by
  obtain ⟨hs, -, -⟩ := split?_eq_some_iff.mp h
  have hle := length_bodyOf_le s
  have hop := length_keyword_pos x.op
  rw [hs, List.length_append, List.length_append] at hle
  omega

/-! ### Reading without a limit -/

namespace Rule

/-- The tree of a text. -/
def read (s : List Char) : Rule :=
  match _h : split? (bodyOf s) with
  | none => .operand (String.ofList (bodyOf s))
  | some x => .operator x.op (read x.left) (read x.right)
termination_by s.length
decreasing_by
  · exact (length_sides_lt _h).1
  · exact (length_sides_lt _h).2

theorem read_of_none {s : List Char} (h : split? (bodyOf s) = none) :
    read s = .operand (String.ofList (bodyOf s)) := by
  rw [read]
  split
  · rfl
  · rename_i x hx
    rw [h] at hx
    cases hx

theorem read_of_some {s : List Char} {x : Split} (h : split? (bodyOf s) = some x) :
    read s = .operator x.op (read x.left) (read x.right) := by
  rw [read]
  split
  · rename_i hx
    rw [h] at hx
    cases hx
  · rename_i y hy
    rw [h] at hy
    cases hy
    rfl

theorem read_congr {s t : List Char} (h : bodyOf s = bodyOf t) : read s = read t := by
  cases hx : split? (bodyOf s) with
  | none => rw [read_of_none hx, read_of_none (h ▸ hx), h]
  | some x => rw [read_of_some hx, read_of_some (s := t) (h ▸ hx)]

theorem read_of_trim_eq {s t : List Char} (h : trim s = trim t) : read s = read t := read_congr (bodyOf_congr h)

/-! ### The limit -/

theorem parseWithin_succ (levels : Nat) (s : List Char) :
    parseWithin (levels + 1) s =
      match split? (bodyOf s) with
      | none => some (.operand (String.ofList (bodyOf s)))
      | some x =>
        match parseWithin levels x.left with
        | none => none
        | some left =>
          match parseWithin levels x.right with
          | none => none
          | some right => some (.operator x.op left right) := rfl

theorem depth_operator_le {op : Connective} {left right : Rule} {levels : Nat} :
    (operator op left right).depth ≤ levels + 1 ↔ left.depth ≤ levels ∧ right.depth ≤ levels := by
  rw [depth]
  omega

theorem parseWithin_eq (levels : Nat) (s : List Char) :
    parseWithin levels s = if (read s).depth ≤ levels then some (read s) else none := by
  induction levels generalizing s with
  | zero => rw [parseWithin, if_neg (Nat.not_le_of_lt (depth_pos _))]
  | succ levels ih =>
    rw [parseWithin_succ]
    cases hx : split? (bodyOf s) with
    | none => rw [read_of_none hx, depth, if_pos (Nat.le_add_left 1 levels)]
    | some x =>
      rw [read_of_some hx]
      simp only [ih, depth_operator_le]
      by_cases hl : (read x.left).depth ≤ levels <;> by_cases hr : (read x.right).depth ≤ levels <;> simp [hl, hr]

/-- The limit accepts the tree of the text or refuses it. -/
theorem parse_eq (limit : Nat) (text : String) :
    parse limit text =
      if (read text.toList).depth ≤ limit then .ok (read text.toList) else .error (.tooDeep limit) := by
  rw [parse, parseWithin_eq]
  by_cases h : (read text.toList).depth ≤ limit
  · rw [if_pos h, if_pos h]
  · rw [if_neg h, if_neg h]

theorem parse_eq_ok_iff {limit : Nat} {text : String} {r : Rule} :
    parse limit text = .ok r ↔ read text.toList = r ∧ r.depth ≤ limit := by
  rw [parse_eq]
  constructor
  · intro h
    split at h
    · rename_i hd
      cases h
      exact ⟨rfl, hd⟩
    · cases h
  · rintro ⟨rfl, hd⟩
    rw [if_pos hd]

end Rule

/-! ### Operands of a tree that was read -/

/-- A text that reading leaves as it is where it stands alone, with as many parentheses opened as closed. -/
structure Settled (s : List Char) : Prop where
  bare : Bare s
  level : balance s = 0
  covered : Covered 0 s

theorem Settled.of_body {s : List Char} (h : split? (bodyOf s) = none) (hs : balance s = 0) : Settled (bodyOf s) :=
  ⟨bare_bodyOf s, by rw [balance_bodyOf, hs], split?_eq_none_iff.mp h⟩

theorem balance_sides {s : List Char} {x : Split} (h : split? (bodyOf s) = some x) (hs : balance s = 0) :
    balance x.left = 0 ∧ balance x.right = 0 := by
  obtain ⟨hbody, hleft, -⟩ := split?_eq_some_iff.mp h
  refine ⟨hleft, ?_⟩
  have := congrArg balance hbody
  rw [balance_bodyOf, balance_append, balance_append, balance_keyword] at this
  omega

theorem Rule.settled_of_mem_read {s : List Char} (hs : balance s = 0) :
    ∀ v ∈ (read s).operands, Settled v.toList := by
  induction s using Rule.read.induct with
  | case1 s hx =>
    rw [read_of_none hx]
    intro v hv
    obtain rfl := List.mem_singleton.mp hv
    rw [String.toList_ofList]
    exact Settled.of_body hx hs
  | case2 s x hx ihl ihr =>
    obtain ⟨hl, hr⟩ := balance_sides hx hs
    rw [read_of_some hx, forall_mem_operands_operator]
    exact ⟨ihl hl, ihr hr⟩

end AttributeRules
