import AttributeRules.Proofs.Reading
import AttributeRules.Rule.Printer

/-! Reading what was written.

A rule whose operands are settled reads back exactly when it is guarded: at each of its connectives, the text
written for the left side shows no keyword outside parentheses (`read_write_iff`). Where it shows one, the split
is made there, and the left side that is read has lost characters.

Operands that are balanced are always guarded. Those of a rule read from a balanced text need not be, since the
outer pair that reading takes off may belong to two groups. -/

namespace AttributeRules
open Text

namespace Rule

/-! ### The written text -/

theorem writeThen_append (r : Rule) (rest : List Char) : r.writeThen rest = r.writeThen [] ++ rest := by
  induction r generalizing rest with
  | operand text =>
    unfold writeThen
    split <;> simp
  | operator op left right ihl ihr =>
    simp only [writeThen]
    rw [ihl, ihr, ihl (' ' :: _), ihr [')']]
    simp

theorem toList_write (r : Rule) : r.write.toList = r.writeThen [] := by
  rw [write, String.toList_ofList]

theorem toList_write_of_isWrapped {text : String} (h : isWrapped text.toList = true) :
    (operand text).write.toList = '(' :: (text.toList ++ [')']) := by
  rw [toList_write, writeThen, if_pos h]

theorem toList_write_of_not_isWrapped {text : String} (h : isWrapped text.toList = false) :
    (operand text).write.toList = text.toList := by
  rw [toList_write, writeThen, if_neg (by simp [h]), List.append_nil]

/-- What stands between the parentheses of a written connective. -/
def inner (op : Connective) (left right : Rule) : List Char :=
  left.write.toList ++ ' ' :: (op.keyword.toList ++ ' ' :: right.write.toList)

theorem toList_write_operator (op : Connective) (left right : Rule) :
    (operator op left right).write.toList = '(' :: (inner op left right ++ [')']) := by
  rw [toList_write, writeThen, writeThen_append left, writeThen_append right, inner, toList_write, toList_write]
  simp

theorem balance_write {r : Rule} (h : ∀ v ∈ r.operands, Settled v.toList) : balance r.write.toList = 0 := by
  induction r with
  | operand text =>
    have hv := (h text (by simp)).level
    cases hw : isWrapped text.toList
    · rw [toList_write_of_not_isWrapped hw, hv]
    · rw [toList_write_of_isWrapped hw]
      simp [hv]
  | operator op left right ihl ihr =>
    obtain ⟨hleft, hright⟩ := forall_mem_operands_operator.mp h
    rw [toList_write_operator, inner]
    simp [ihl hleft, ihr hright]

/-! ### What is written besides blanks and parentheses -/

end Rule

/-- The characters of a text that are neither blanks nor parentheses. -/
def ink (s : List Char) : List Char := s.filter fun c => !isBlank c && c != '(' && c != ')'

@[simp] theorem ink_nil : ink [] = [] := rfl

@[simp] theorem ink_append (s t : List Char) : ink (s ++ t) = ink s ++ ink t := List.filter_append ..

@[simp] theorem ink_open (s : List Char) : ink ('(' :: s) = ink s := rfl

@[simp] theorem ink_close (s : List Char) : ink (')' :: s) = ink s := rfl

@[simp] theorem ink_space (s : List Char) : ink (' ' :: s) = ink s := rfl

@[simp] theorem ink_keyword (op : Connective) : ink op.keyword.toList = op.keyword.toList := by
  cases op <;> decide

theorem ink_of_blanks {b : List Char} (hb : AllBlank b) : ink b = [] := by
  rw [ink, List.filter_eq_nil_iff]
  intro c hc
  simp [hb c hc]

@[simp] theorem ink_trim (s : List Char) : ink (trim s) = ink s := by
  obtain ⟨a, b, ha, hb, -, hs⟩ := exists_eq_trim s
  have := congrArg ink hs
  rw [ink_append, ink_append, ink_of_blanks ha, ink_of_blanks hb, List.nil_append, List.append_nil] at this
  exact this.symm

@[simp] theorem ink_unwrap (s : List Char) : ink (unwrap s) = ink s := by
  cases h : isWrapped s
  · rw [unwrap_of_not_isWrapped h]
  · obtain ⟨m, rfl⟩ := isWrapped_iff.mp h
    simp

namespace Rule

@[simp] theorem ink_write_operand (text : String) : ink (operand text).write.toList = ink text.toList := by
  cases hw : isWrapped text.toList
  · rw [toList_write_of_not_isWrapped hw]
  · rw [toList_write_of_isWrapped hw]
    simp

@[simp] theorem ink_write_operator (op : Connective) (left right : Rule) :
    ink (operator op left right).write.toList =
      ink left.write.toList ++ (op.keyword.toList ++ ink right.write.toList) := by
  rw [toList_write_operator, inner]
  simp

/-- Reading keeps every character but blanks and parentheses. -/
theorem ink_write_read (s : List Char) : ink (read s).write.toList = ink s := by
  induction s using Rule.read.induct with
  | case1 s hx =>
    rw [read_of_none hx, ink_write_operand, String.toList_ofList, bodyOf, ink_unwrap, ink_trim]
  | case2 s x hx ihl ihr =>
    obtain ⟨hbody, -, -⟩ := split?_eq_some_iff.mp hx
    have hink : ink (bodyOf s) = ink s := by
      rw [bodyOf, ink_unwrap, ink_trim]
    rw [read_of_some hx, ink_write_operator, ihl, ihr, ← hink, hbody, ink_append, ink_append, ink_keyword]

/-! ### Guarded rules -/

/-- No keyword of an operand shows in the written rule, with so many parentheses open around the rule. -/
def Hidden (nesting : Int) : Rule → Prop
  | .operand text => Covered (if isWrapped text.toList then nesting + 1 else nesting) text.toList
  | .operator _ left right => left.Hidden (nesting + 1) ∧ right.Hidden (nesting + 1)

/-- At each connective, no keyword shows in what is written for the left side. -/
def Guarded : Rule → Prop
  | .operand _ => True
  | .operator _ left right => left.Hidden 0 ∧ left.Guarded ∧ right.Guarded

instance decidableHidden : (nesting : Int) → (r : Rule) → Decidable (r.Hidden nesting)
  | nesting, .operand text =>
    inferInstanceAs (Decidable (Covered (if isWrapped text.toList then nesting + 1 else nesting) text.toList))
  | nesting, .operator _ left right =>
    have := decidableHidden (nesting + 1) left
    have := decidableHidden (nesting + 1) right
    inferInstanceAs (Decidable (left.Hidden (nesting + 1) ∧ right.Hidden (nesting + 1)))

instance decidableGuarded : (r : Rule) → Decidable r.Guarded
  | .operand _ => inferInstanceAs (Decidable True)
  | .operator _ left right =>
    have := decidableGuarded left
    have := decidableGuarded right
    inferInstanceAs (Decidable (left.Hidden 0 ∧ left.Guarded ∧ right.Guarded))

/-- The keyword of a written connective stands inside its parentheses, so only operands can show one. -/
theorem covered_write_iff {k : Int} (hk : 0 ≤ k) {r : Rule} (h : ∀ v ∈ r.operands, Settled v.toList) :
    Covered k r.write.toList ↔ r.Hidden k := by
  induction r generalizing k with
  | operand text =>
    rw [Hidden]
    cases hw : isWrapped text.toList
    · rw [toList_write_of_not_isWrapped hw]
      rfl
    · rw [toList_write_of_isWrapped hw, covered_wrap_iff]
      rfl
  | operator op left right ihl ihr =>
    obtain ⟨hleft, hright⟩ := forall_mem_operands_operator.mp h
    have hne : k + 1 ≠ 0 := by omega
    have hspace : ∀ s, Covered (k + 1) (' ' :: s) ↔ Covered (k + 1) s := fun s => by
      rw [covered_cons, show balance [' '] = 0 from rfl, Int.add_zero]
      exact ⟨fun h => h.2, fun h => ⟨fun h0 => absurd h0 hne, h⟩⟩
    have hkeyword : Covered (k + 1) op.keyword.toList := (noParen_keyword op).covered hne
    rw [toList_write_operator, covered_wrap_iff, inner, covered_append (by rfl), balance_write hleft, Int.add_zero,
      hspace, covered_append (by rfl), balance_keyword, Int.add_zero, hspace, ihl (by omega) hleft,
      ihr (by omega) hright, Hidden]
    exact ⟨fun h => ⟨h.1, h.2.2⟩, fun h => ⟨h.1, hkeyword, h.2⟩⟩

/-! ### Reading it back -/

theorem read_write_operand {text : String} (h : Settled text.toList) :
    read (operand text).write.toList = operand text := by
  have hbody : bodyOf (operand text).write.toList = text.toList := by
    cases hw : isWrapped text.toList
    · rw [toList_write_of_not_isWrapped hw, bodyOf_of_not_isWrapped h.bare hw]
    · rw [toList_write_of_isWrapped hw, bodyOf_wrap, trim_of_bare h.bare]
  have hsplit : split? (bodyOf (operand text).write.toList) = none := by
    rw [hbody, split?_eq_none_iff]
    exact h.covered
  rw [read_of_none hsplit, hbody, String.ofList_toList]

theorem bodyOf_write_operator (op : Connective) (left right : Rule) :
    bodyOf (operator op left right).write.toList = trim (inner op left right) := by
  rw [toList_write_operator, bodyOf_wrap]

/-- A written connective splits at its own keyword when the left side shows none. -/
theorem read_write_operator {op : Connective} {left right : Rule} (hlevel : balance left.write.toList = 0)
    (hcov : Covered 0 left.write.toList) :
    read (operator op left right).write.toList =
      operator op (read left.write.toList) (read right.write.toList) := by
  have hspace : AllBlank [' '] := by simp [AllBlank, isBlank]
  have hsplit : split? (inner op left right) = some ⟨left.write.toList ++ [' '], op, ' ' :: right.write.toList⟩ := by
    refine split?_eq_some_iff.mpr ⟨by simp [inner], by simp [hlevel], ?_⟩
    exact hcov.append_blanks hspace
  obtain ⟨y, hy, hop, hl, hr⟩ := split?_trim hsplit
  rw [← bodyOf_write_operator] at hy
  have hreadl := read_of_trim_eq (hl.trans (trim_append_of_blanks left.write.toList hspace))
  have hreadr := read_of_trim_eq (hr.trans (trim_blanks_append hspace right.write.toList))
  rw [read_of_some hy, hop, hreadl, hreadr]

/-- When the left side shows a keyword, the split there leaves out a part of it. -/
theorem read_write_operator_ne {op : Connective} {left right : Rule} (hcov : ¬ Covered 0 left.write.toList) :
    read (operator op left right).write.toList ≠ operator op left right := by
  obtain ⟨x, hx⟩ := Option.ne_none_iff_exists'.mp (mt split?_eq_none_iff.mp hcov)
  obtain ⟨hleft, hlevel, hfront⟩ := split?_eq_some_iff.mp hx
  have hsplit : split? (inner op left right) =
      some ⟨x.left, x.op, x.right ++ ' ' :: (op.keyword.toList ++ ' ' :: right.write.toList)⟩ := by
    refine split?_eq_some_iff.mpr ⟨?_, hlevel, hfront⟩
    rw [inner, hleft]
    simp
  obtain ⟨y, hy, -, hl, -⟩ := split?_trim hsplit
  rw [← bodyOf_write_operator] at hy
  rw [read_of_some hy, read_of_trim_eq hl]
  intro heq
  -- Only the ink can be compared: the text in front of the keyword may be written with other parentheses.
  have hread : read x.left = left := (operator.inj heq).2.1
  have hink := ink_write_read x.left
  rw [hread, hleft, ink_append, ink_append, ink_keyword] at hink
  have := congrArg List.length hink
  have hop := length_keyword_pos x.op
  rw [List.length_append, List.length_append] at this
  omega

/-- A rule with settled operands reads back exactly when it is guarded. -/
theorem read_write_iff {r : Rule} (h : ∀ v ∈ r.operands, Settled v.toList) :
    read r.write.toList = r ↔ r.Guarded := by
  induction r with
  | operand text => exact ⟨fun _ => trivial, fun _ => read_write_operand (h text (by simp))⟩
  | operator op left right ihl ihr =>
    obtain ⟨hleft, hright⟩ := forall_mem_operands_operator.mp h
    have hcov := covered_write_iff (Int.le_refl 0) hleft
    by_cases hc : Covered 0 left.write.toList
    · rw [read_write_operator (balance_write hleft) hc, Guarded, ← ihl hleft, ← ihr hright]
      constructor
      · intro heq
        exact ⟨hcov.mp hc, (operator.inj heq).2.1, (operator.inj heq).2.2⟩
      · rintro ⟨-, hl, hr⟩
        rw [hl, hr]
    · constructor
      · exact fun heq => absurd heq (read_write_operator_ne hc)
      · exact fun hg => absurd (hcov.mpr hg.1) hc

/-! ### Rules from balanced texts -/

/-- What joining keeps, combining the rules of a list keeps. -/
theorem combineAll_induction {P : Rule → Prop} {op : Connective}
    (join : ∀ left right, P left → P right → P (operator op left right)) {rules : List Rule} {r : Rule}
    (h : ∀ x ∈ rules, P x) (hr : combineAll op rules = some r) : P r := by
  cases rules with
  | nil => cases hr
  | cons first rest =>
    obtain rfl := Option.some.inj hr
    have hfirst := h first (by simp)
    have hrest : ∀ x ∈ rest, P x := fun x hx => h x (by simp [hx])
    clear h hr
    -- The fold grows on the left, so the rule built so far is what varies.
    induction rest generalizing first with
    | nil => exact hfirst
    | cons next rest ih =>
      exact ih (operator op first next) (join _ _ hfirst (hrest next (by simp))) fun x hx => hrest x (by simp [hx])

/-- Rules read from balanced texts, and what joining two of them or combining a list of them gives. -/
inductive Built : Rule → Prop
  | parsed {limit : Nat} {text : String} {r : Rule} :
    Balanced text.toList → parse limit text = .ok r → Built r
  | joined {left right : Rule} (op : Connective) : Built left → Built right → Built (operator op left right)
  | combined {op : Connective} {rules : List Rule} {r : Rule} :
    (∀ x ∈ rules, Built x) → combineAll op rules = some r → Built r

theorem Built.settled {r : Rule} (h : Built r) : ∀ v ∈ r.operands, Settled v.toList := by
  induction h with
  | parsed hbal hparse =>
    obtain ⟨rfl, -⟩ := parse_eq_ok_iff.mp hparse
    exact settled_of_mem_read hbal.balance_eq
  | joined op _ _ ihl ihr => exact forall_mem_operands_operator.mpr ⟨ihl, ihr⟩
  | @combined op rules r _ hr ih =>
    refine combineAll_induction (P := fun r => ∀ v ∈ r.operands, Settled v.toList) ?_ ih hr
    exact fun left right hl hr => forall_mem_operands_operator.mpr ⟨hl, hr⟩

/-- A rule that was read from a balanced text, or built from such rules and not too deep, reads back exactly when
it is guarded. -/
theorem parse_write_eq_ok_iff_guarded {r : Rule} {limit : Nat}
    (h : (∃ text : String, Balanced text.toList ∧ parse limit text = .ok r) ∨ (Built r ∧ r.depth ≤ limit)) :
    parse limit r.write = .ok r ↔ r.Guarded := by
  have hbuilt : Built r ∧ r.depth ≤ limit := by
    rcases h with ⟨text, hbal, hparse⟩ | h
    · exact ⟨.parsed hbal hparse, (parse_eq_ok_iff.mp hparse).2⟩
    · exact h
  rw [parse_eq_ok_iff, read_write_iff hbuilt.1.settled]
  exact and_iff_left hbuilt.2

/-- The pieces of groups that lost their outer parentheses read back as long as no connective writes them within
the parentheses of its left side. -/
theorem parse_write_opened_groups :
    Balanced "(a) AND (b OR c) AND (d)".toList ∧
      parse 2 "(a) AND (b OR c) AND (d)" = .ok (.operator .or (.operand "a) AND (b") (.operand "c) AND (d")) ∧
      (parse 2 (operator .or (.operand "a) AND (b") (.operand "c) AND (d")).write =
          .ok (.operator .or (.operand "a) AND (b") (.operand "c) AND (d")) ↔
        (operator .or (.operand "a) AND (b") (.operand "c) AND (d")).Guarded) ∧
      (operator .or (.operand "a) AND (b") (.operand "c) AND (d")).Guarded :=
  have hbal : Balanced "(a) AND (b OR c) AND (d)".toList := by decide
  ⟨hbal, rfl, parse_write_eq_ok_iff_guarded (Or.inl ⟨_, hbal, rfl⟩), by decide⟩

/-- Two groups at the end of a group lose their outer parentheses, and the written rule splits between them. -/
theorem parse_write_sibling_groups :
    Balanced "(p OR (a) AND (b)) OR z".toList ∧
      parse 256 "(p OR (a) AND (b)) OR z" =
        .ok (.operator .or (.operator .or (.operand "p") (.operand "a) AND (b")) (.operand "z")) ∧
      parse 256 (operator .or (.operator .or (.operand "p") (.operand "a) AND (b")) (.operand "z")).write ≠
        .ok (.operator .or (.operator .or (.operand "p") (.operand "a) AND (b")) (.operand "z")) := by
  refine ⟨by decide, rfl, fun h => ?_⟩
  have hread : parse 256 (operator .or (.operator .or (.operand "p") (.operand "a) AND (b")) (.operand "z")).write =
      .ok (.operator .and (.operator .or (.operand "p") (.operand "a"))
        (.operator .or (.operand "b") (.operand "z"))) := rfl
  rw [hread] at h
  cases h

/-! ### Operands that stand for themselves -/

/-- An operand that reading leaves as it is in any place: trimmed, balanced, every keyword inside parentheses. -/
structure SelfContained (s : List Char) : Prop where
  trimmed : trim s = s
  balanced : Balanced s
  covered : Covered 0 s

theorem SelfContained.settled {s : List Char} (h : SelfContained s) : Settled s :=
  ⟨trim_eq_self_iff.mp h.trimmed, h.balanced.balance_eq, h.covered⟩

theorem hidden_of_selfContained {k : Int} (hk : 0 ≤ k) {r : Rule} (h : ∀ v ∈ r.operands, SelfContained v.toList) :
    r.Hidden k := by
  induction r generalizing k with
  | operand text =>
    have hv := h text (by simp)
    rw [Hidden]
    rcases Int.lt_or_eq_of_le hk with hpos | rfl
    · exact hv.balanced.covered (by split <;> omega)
    · split
      · exact hv.balanced.covered (by omega)
      · exact hv.covered
  | operator op left right ihl ihr =>
    obtain ⟨hleft, hright⟩ := forall_mem_operands_operator.mp h
    exact ⟨ihl (by omega) hleft, ihr (by omega) hright⟩

theorem guarded_of_selfContained {r : Rule} (h : ∀ v ∈ r.operands, SelfContained v.toList) : r.Guarded := by
  induction r with
  | operand text => trivial
  | operator op left right ihl ihr =>
    obtain ⟨hleft, hright⟩ := forall_mem_operands_operator.mp h
    exact ⟨hidden_of_selfContained (Int.le_refl 0) hleft, ihl hleft, ihr hright⟩

theorem read_write {r : Rule} (h : ∀ v ∈ r.operands, SelfContained v.toList) : read r.write.toList = r :=
  (read_write_iff fun v hv => (h v hv).settled).mpr (guarded_of_selfContained h)

/-- A rule of operands that stand for themselves reads back within each limit that its depth respects and is
refused by any other, and no other such rule is written alike. -/
theorem parse_write_of_selfContained {r : Rule} (h : ∀ v ∈ r.operands, SelfContained v.toList) :
    (∀ limit, parse limit r.write = if r.depth ≤ limit then .ok r else .error (.tooDeep limit)) ∧
      ∀ s : Rule, (∀ v ∈ s.operands, SelfContained v.toList) → s.write = r.write → s = r := by
  constructor
  · intro limit
    rw [parse_eq, read_write h]
  · intro s hs heq
    rw [← read_write hs, heq, read_write h]

/-- An empty operand, one that looks wrapped and one with a keyword in parentheses, at the depth of the rule and
one level below it. -/
theorem parse_write_selfContained_operands :
    (∀ v ∈ (operator .and (.operator .or (.operand "") (.operand "(a)(b)")) (.operand "x (AND) y")).operands,
        SelfContained v.toList) ∧
      parse 3 (operator .and (.operator .or (.operand "") (.operand "(a)(b)")) (.operand "x (AND) y")).write =
        .ok (.operator .and (.operator .or (.operand "") (.operand "(a)(b)")) (.operand "x (AND) y")) ∧
      parse 2 (operator .and (.operator .or (.operand "") (.operand "(a)(b)")) (.operand "x (AND) y")).write =
        .error (.tooDeep 2) := by
  have h : ∀ v ∈ (operator .and (.operator .or (.operand "") (.operand "(a)(b)")) (.operand "x (AND) y")).operands,
      SelfContained v.toList := by
    intro v hv
    rcases List.mem_cons.mp hv with rfl | hv
    · exact ⟨by decide, by decide, by decide⟩
    · rcases List.mem_cons.mp hv with rfl | hv
      · exact ⟨by decide, by decide, by decide⟩
      · obtain rfl := List.mem_singleton.mp hv
        exact ⟨by decide, by decide, by decide⟩
  exact ⟨h, (parse_write_of_selfContained h).1 3, (parse_write_of_selfContained h).1 2⟩

end Rule

end AttributeRules
