import AttributeRules.Proofs.Reading

/-! The grammar of rule texts written by hand: chains of terms joined by keywords, where a term is an operand or a
chain inside parentheses.

Reading a chain gives its meaning, each keyword joining the term on its left with the rest of the chain
(`parse_text`). Since reading takes an outer pair of parentheses off without looking whether the two belong
together, a chain that ends in a group must not hold another one; only directly inside a group, whose own pair
is taken off first, may the first term be one. -/

namespace AttributeRules.Grammar
open Text

/-- Blanks that may be missing. -/
structure Padding where
  chars : List Char
  blank : AllBlank chars := by decide

/-- Blanks between a term and a keyword. -/
structure Gap extends Padding where
  nonempty : chars ≠ [] := by decide

/-- The text of an operand: some characters without blanks at the ends, parentheses or keywords. -/
structure OperandText where
  chars : List Char
  nonempty : chars ≠ [] := by decide
  trimmed : trim chars = chars := by decide
  noParen : NoParen chars := by decide
  noKeyword : ¬ "AND".toList <:+: chars ∧ ¬ "OR".toList <:+: chars := by decide

mutual
/-- An operand, or a chain inside parentheses. -/
inductive Term
  | operand (v : OperandText)
  | group (before : Padding) (content : Chain) (after : Padding)

/-- Terms joined by keywords. -/
inductive Chain
  | single (t : Term)
  | more (first : Term) (before : Gap) (op : Connective) (after : Gap) (rest : Chain)
end

mutual
def Term.text : Term → List Char
  | .operand v => v.chars
  | .group before content after => '(' :: ((before.chars ++ (content.text ++ after.chars)) ++ [')'])

def Chain.text : Chain → List Char
  | .single t => t.text
  | .more first before op after rest =>
    (first.text ++ before.chars) ++ (op.keyword.toList ++ (after.chars ++ rest.text))
end

mutual
def Term.meaning : Term → Rule
  | .operand v => .operand (String.ofList v.chars)
  | .group _ content _ => content.meaning

/-- The rule that a chain means: the first term joined with what the rest means. -/
def Chain.meaning : Chain → Rule
  | .single t => t.meaning
  | .more first _ op _ rest => .operator op first.meaning rest.meaning
end

def Term.isGroup : Term → Bool
  | .operand _ => false
  | .group .. => true

def Chain.terms : Chain → List Term
  | .single t => [t]
  | .more first _ _ _ rest => first :: rest.terms

/-- If the last of several terms is a group, no earlier one is; directly inside a group the first one may be. -/
def Chain.LastGroupAlone (enclosed : Bool) (c : Chain) : Prop :=
  ∀ last ∈ c.terms.getLast?, last.isGroup = true →
    ∀ t ∈ (if enclosed then c.terms.dropLast.tail else c.terms.dropLast), t.isGroup = false

instance (enclosed : Bool) (c : Chain) : Decidable (c.LastGroupAlone enclosed) :=
  inferInstanceAs (Decidable (∀ last ∈ c.terms.getLast?, last.isGroup = true →
    ∀ t ∈ (if enclosed then c.terms.dropLast.tail else c.terms.dropLast), t.isGroup = false))

/-- The chain is an operand or has several terms. -/
def Chain.FillsGroup : Chain → Prop
  | .single t => t.isGroup = false
  | .more .. => True

mutual
/-- All groups of the term keep the rules of the grammar. -/
def Term.Regular : Term → Prop
  | .operand _ => True
  | .group _ content _ => content.FillsGroup ∧ content.LastGroupAlone true ∧ content.TermsRegular

/-- All groups of the terms keep the rules of the grammar. -/
def Chain.TermsRegular : Chain → Prop
  | .single t => t.Regular
  | .more first _ _ _ rest => first.Regular ∧ rest.TermsRegular
end

/-- The chain and all groups in it keep the rules of the grammar. -/
structure Chain.Regular (c : Chain) : Prop where
  lastGroupAlone : c.LastGroupAlone false
  terms : c.TermsRegular

/-! ### The texts of terms and chains -/

theorem OperandText.covered (v : OperandText) : Covered 0 v.chars :=
  covered_of_noKeyword v.noKeyword.1 v.noKeyword.2

mutual
theorem Term.balanced_text : (t : Term) → Balanced t.text
  | .operand v => Balanced.of_noParen v.noParen
  | .group before content after =>
    ((Balanced.of_blanks before.blank).append
      (content.balanced_text.append (Balanced.of_blanks after.blank))).wrap

theorem Chain.balanced_text : (c : Chain) → Balanced c.text
  | .single t => t.balanced_text
  | .more first before op after rest =>
    (first.balanced_text.append (Balanced.of_blanks before.blank)).append
      ((Balanced.of_noParen (noParen_keyword op)).append
        ((Balanced.of_blanks after.blank).append rest.balanced_text))
end

theorem Term.covered_text (t : Term) : Covered 0 t.text := by
  cases t with
  | operand v => exact v.covered
  | group before content after =>
    have hbefore := Balanced.of_blanks before.blank
    have hafter := Balanced.of_blanks after.blank
    exact covered_wrap_iff.mpr ((hbefore.append (content.balanced_text.append hafter)).covered (by decide))

theorem Term.text_ne_nil (t : Term) : t.text ≠ [] := by
  cases t with
  | operand v => exact v.nonempty
  | group before content after => exact List.cons_ne_nil _ _

theorem Term.bare_text (t : Term) : Bare t.text := by
  cases t with
  | operand v => exact trim_eq_self_iff.mp v.trimmed
  | group before content after => exact bare_wrap _

theorem Chain.text_ne_nil (c : Chain) : c.text ≠ [] := by
  cases c with
  | single t => exact t.text_ne_nil
  | more first before op after rest => simp [Chain.text, first.text_ne_nil]

theorem Chain.bare_text : (c : Chain) → Bare c.text
  | .single t => t.bare_text
  | .more first before op after rest => by
    have := first.bare_text.append_around first.text_ne_nil (before.chars ++ (op.keyword.toList ++ after.chars))
      rest.bare_text rest.text_ne_nil
    simpa only [Chain.text, List.append_assoc] using this

theorem Chain.terms_ne_nil (c : Chain) : c.terms ≠ [] := by
  cases c <;> exact List.cons_ne_nil _ _

/-! ### The ends of a chain -/

theorem Term.isGroup_of_head? {t : Term} (h : t.text.head? = some '(') : t.isGroup = true := by
  cases t with
  | operand v => exact absurd rfl (v.noParen '(' (List.mem_of_head? h)).1
  | group before content after => rfl

theorem Term.isGroup_of_getLast? {t : Term} (h : t.text.getLast? = some ')') : t.isGroup = true := by
  cases t with
  | operand v => exact absurd rfl (v.noParen ')' (List.mem_of_getLast? h)).2
  | group before content after => rfl

theorem Chain.head?_text_more (first : Term) (before : Gap) (op : Connective) (after : Gap) (rest : Chain) :
    (Chain.more first before op after rest).text.head? = first.text.head? := by
  rw [Chain.text, List.append_assoc, List.head?_append, List.head?_eq_some_head first.text_ne_nil, Option.some_or]

theorem Chain.exists_last : (c : Chain) → ∃ last, c.terms.getLast? = some last ∧ c.text.getLast? = last.text.getLast?
  | .single t => ⟨t, rfl, rfl⟩
  | .more first before op after rest => by
    obtain ⟨last, hlast, htext⟩ := rest.exists_last
    refine ⟨last, by rw [Chain.terms, List.getLast?_cons, hlast, Option.getD_some], ?_⟩
    rw [← htext, Chain.text, List.getLast?_append, List.getLast?_append, List.getLast?_append,
      List.getLast?_eq_some_getLast rest.text_ne_nil, Option.some_or, Option.some_or, Option.some_or]

section More
variable {first : Term} {before : Gap} {op : Connective} {after : Gap} {rest : Chain}

/-- What is left of a chain behind its first term holds no group in front of its last term, if that is one. -/
theorem Chain.LastGroupAlone.tail {enclosed : Bool}
    (h : (Chain.more first before op after rest).LastGroupAlone enclosed) : rest.LastGroupAlone false := by
  intro last hlast hgroup t ht
  have hlast' : last ∈ (Chain.more first before op after rest).terms.getLast? := by
    rw [Chain.terms, List.getLast?_cons, Option.mem_def.mp hlast, Option.getD_some]
    rfl
  refine h last hlast' hgroup t ?_
  have ht' : t ∈ rest.terms.dropLast := ht
  rw [Chain.terms, List.dropLast_cons_of_ne_nil rest.terms_ne_nil]
  cases enclosed
  · exact List.mem_cons_of_mem first ht'
  · exact ht'

/-- A chain with several terms that stands by itself does not begin and end with a group. -/
theorem Chain.not_isWrapped (h : (Chain.more first before op after rest).LastGroupAlone false) :
    isWrapped (Chain.more first before op after rest).text = false := by
  cases hw : isWrapped (Chain.more first before op after rest).text
  · rfl
  · obtain ⟨m, hm⟩ := isWrapped_iff.mp hw
    obtain ⟨last, hlast, htext⟩ := (Chain.more first before op after rest).exists_last
    have hfirst : first.isGroup = true := by
      refine Term.isGroup_of_head? ?_
      rw [← Chain.head?_text_more first before op after rest, hm, List.head?_cons]
    have hgroup : last.isGroup = true := by
      refine Term.isGroup_of_getLast? ?_
      rw [← htext, hm, List.getLast?_cons, List.getLast?_concat, Option.getD_some]
    have hmem : first ∈ (Chain.more first before op after rest).terms.dropLast := by
      rw [Chain.terms, List.dropLast_cons_of_ne_nil rest.terms_ne_nil]
      exact List.mem_cons_self
    rw [h last hlast hgroup first hmem] at hfirst
    cases hfirst

/-! ### Reading -/

theorem Chain.split?_text_more : split? (Chain.more first before op after rest).text =
    some ⟨first.text ++ before.chars, op, after.chars ++ rest.text⟩ := by
  refine split?_eq_some_iff.mpr ⟨rfl, ?_, first.covered_text.append_blanks before.blank⟩
  rw [balance_append, first.balanced_text.balance_eq, balance_of_blanks before.blank]
  rfl

theorem Chain.read_more {s : List Char} (hs : bodyOf s = (Chain.more first before op after rest).text)
    (hfirst : Rule.read first.text = first.meaning) (hrest : Rule.read rest.text = rest.meaning) :
    Rule.read s = (Chain.more first before op after rest).meaning := by
  have hsplit : split? (bodyOf s) = some ⟨first.text ++ before.chars, op, after.chars ++ rest.text⟩ := by
    rw [hs, Chain.split?_text_more]
  have hl := Rule.read_of_trim_eq (trim_append_of_blanks first.text before.blank)
  have hr := Rule.read_of_trim_eq (trim_blanks_append after.blank rest.text)
  rw [Rule.read_of_some hsplit, hl, hr, hfirst, hrest, Chain.meaning]

end More

theorem OperandText.read_of_bodyOf (v : OperandText) {s : List Char} (hs : bodyOf s = v.chars) :
    Rule.read s = .operand (String.ofList v.chars) := by
  have hsplit : split? (bodyOf s) = none := by
    rw [hs, split?_eq_none_iff]
    exact v.covered
  rw [Rule.read_of_none hsplit, hs]

theorem OperandText.bodyOf_chars (v : OperandText) : bodyOf v.chars = v.chars :=
  bodyOf_of_not_isWrapped (trim_eq_self_iff.mp v.trimmed) (isWrapped_of_noParen v.noParen)

theorem Chain.bodyOf_group (before : Padding) (content : Chain) (after : Padding) :
    bodyOf (Term.group before content after).text = content.text := by
  rw [Term.text, bodyOf_wrap, trim_append_blanks before.blank content.text after.blank, trim_of_bare content.bare_text]

-- A chain is read in two ways: as the content of a group, whose parentheses are already off, and by itself.
mutual
theorem Term.read_text : (t : Term) → t.Regular → Rule.read t.text = t.meaning
  | .operand v, _ => v.read_of_bodyOf v.bodyOf_chars
  | .group before content after, h => content.read_content h.1 h.2.1 h.2.2 (Chain.bodyOf_group before content after)

theorem Chain.read_content : (c : Chain) → c.FillsGroup → c.LastGroupAlone true → c.TermsRegular →
    ∀ {s : List Char}, bodyOf s = c.text → Rule.read s = c.meaning
  | .single (.operand v), _, _, _, _, hs => v.read_of_bodyOf hs
  | .single (.group _ _ _), h, _, _, _, _ => nomatch h
  | .more first _ _ _ rest, _, hl, ht, _, hs =>
    Chain.read_more hs (first.read_text ht.1) (rest.read_text (Chain.LastGroupAlone.tail hl) ht.2)

theorem Chain.read_text : (c : Chain) → c.LastGroupAlone false → c.TermsRegular → Rule.read c.text = c.meaning
  | .single t, _, ht => t.read_text ht
  | .more first _ _ _ rest, hl, ht =>
    Chain.read_more (bodyOf_of_not_isWrapped (Chain.bare_text _) (Chain.not_isWrapped hl)) (first.read_text ht.1)
      (rest.read_text (Chain.LastGroupAlone.tail hl) ht.2)
end

/-- A chain that keeps the rules of the grammar reads as its meaning within each limit that the depth of the meaning
respects, and is refused by any other. -/
theorem Chain.parse_text {c : Chain} (h : c.Regular) (limit : Nat) :
    Rule.parse limit (String.ofList c.text) =
      if c.meaning.depth ≤ limit then .ok c.meaning else .error (.tooDeep limit) := by
  rw [Rule.parse_eq, String.toList_ofList, c.read_text h.lastGroupAlone h.terms]

/-- A chain that ends in a group which itself begins and ends with groups. -/
def nestedGroups : Chain :=
  let space : Gap := { chars := [' '] }
  let bare : Padding := { chars := [] }
  let tab : Padding := { chars := ['\t'] }
  let a : Term := .operand { chars := "a = 1".toList }
  let pair : Chain := .more a space .or space (.single a)
  .more a space .and space (.single (.group tab
    (.more (.group bare pair bare) space .and space (.more a space .or space (.single (.group bare pair tab)))) bare))

theorem parse_nestedGroups :
    nestedGroups.Regular ∧
      nestedGroups.text = "a = 1 AND (\t(a = 1 OR a = 1) AND a = 1 OR (a = 1 OR a = 1\t))".toList ∧
      Rule.parse 5 (String.ofList nestedGroups.text) = .ok nestedGroups.meaning ∧
      Rule.parse 4 (String.ofList nestedGroups.text) = .error (.tooDeep 4) := by
  have h : nestedGroups.Regular :=
    { lastGroupAlone := by decide
      terms := ⟨trivial, trivial, by decide, ⟨trivial, by decide, trivial, trivial⟩, trivial, trivial, by decide,
        trivial, trivial⟩ }
  exact ⟨h, by decide, Chain.parse_text h 5, Chain.parse_text h 4⟩

end AttributeRules.Grammar
