import Mathlib.Logic.ExistsUnique
import AttributeRules.Proofs.RoundTrip
import AttributeRules.Text.ByteSlice

/-! What the tree of a text has of the text.

What is split when a text is read stands in the text, and each split takes a keyword of at least two bytes out of it.
So reading needs no limit to end, and the tree has at most half as many levels below its root as the text has bytes; a
limit accepts this tree or refuses it (`existsUnique_isTreeOf`).

Trimming, unwrapping and splitting drop blanks, parentheses and the keyword that the tree keeps. From left to right, the
tree thus has every other character of the text, and its operands are parts of the text that show no keyword
(`inOrder_of_parse`). -/

namespace AttributeRules
open Text

/-! ### Bytes -/

namespace Text

theorem byteLength_append (s t : List Char) : byteLength (s ++ t) = byteLength s + byteLength t := by
  induction s with
  | nil => simp [byteLength]
  | cons c s ih => simp [byteLength, ih, Nat.add_assoc]

theorem byteLength_le_of_isInfix {s t : List Char} (h : s <:+: t) : byteLength s ≤ byteLength t := by
  obtain ⟨a, b, rfl⟩ := h
  rw [byteLength_append, byteLength_append]
  omega

theorem byteLength_ofList (s : List Char) : (String.ofList s).utf8ByteSize = byteLength s := by
  induction s with
  | nil => rfl
  | cons c s ih => rw [String.ofList_cons, String.utf8ByteSize_append, String.utf8ByteSize_singleton, ih, byteLength]

theorem byteLength_toList (text : String) : byteLength text.toList = text.utf8ByteSize := by
  rw [← byteLength_ofList, String.ofList_toList]

end Text

theorem two_le_byteLength_keyword (op : Connective) : 2 ≤ byteLength op.keyword.toList := by
  cases op <;> decide

/-! ### Parts of a text -/

theorem unwrap_isInfix (s : List Char) : unwrap s <:+: s := by
  cases h : isWrapped s
  · exact ⟨[], [], by rw [unwrap_of_not_isWrapped h, List.nil_append, List.append_nil]⟩
  · obtain ⟨m, rfl⟩ := isWrapped_iff.mp h
    rw [unwrap_wrap]
    exact (trim_isInfix m).trans ⟨['('], [')'], rfl⟩

theorem bodyOf_isInfix (s : List Char) : bodyOf s <:+: s := (unwrap_isInfix (trim s)).trans (trim_isInfix s)

section Sides
variable {s : List Char} {x : Split}

theorem sides_isInfix (h : split? (bodyOf s) = some x) : x.left <:+: s ∧ x.right <:+: s := by
  obtain ⟨hbody, -, -⟩ := split?_eq_some_iff.mp h
  have hin := bodyOf_isInfix s
  rw [hbody] at hin
  constructor
  · exact (List.infix_append' [] x.left _).trans hin
  · refine List.IsInfix.trans ?_ hin
    exact ⟨x.left ++ x.op.keyword.toList, [], by simp⟩

/-- The keyword of the split is in neither side. -/
theorem byteLength_sides (h : split? (bodyOf s) = some x) :
    byteLength x.left + 2 ≤ byteLength s ∧ byteLength x.right + 2 ≤ byteLength s := by
  obtain ⟨hbody, -, -⟩ := split?_eq_some_iff.mp h
  have hle := byteLength_le_of_isInfix (bodyOf_isInfix s)
  have hop := two_le_byteLength_keyword x.op
  rw [hbody, byteLength_append, byteLength_append] at hle
  omega

end Sides

namespace Rule

/-! ### Reading without a limit -/

/-- Reading without a limit: a text that does not split is an operand, and both sides of one that does are read. -/
inductive Reads : List Char → Rule → Prop
  | operand {s : List Char} : split? (bodyOf s) = none → Reads s (.operand (String.ofList (bodyOf s)))
  | operator {s : List Char} {x : Split} {left right : Rule} :
    split? (bodyOf s) = some x → Reads x.left left → Reads x.right right → Reads s (.operator x.op left right)

section Reads
variable {s : List Char} {r : Rule}

theorem reads_read (s : List Char) : Reads s (read s) := by
  induction s using Rule.read.induct with
  | case1 s hx =>
    rw [read_of_none hx]
    exact .operand hx
  | case2 s x hx ihl ihr =>
    rw [read_of_some hx]
    exact .operator hx ihl ihr

theorem Reads.depth_le (h : Reads s r) : r.depth ≤ 1 + byteLength s / 2 := by
  induction h with
  | operand => exact Nat.le_add_right 1 _
  | operator hx _ _ ihl ihr =>
    obtain ⟨hl, hr⟩ := byteLength_sides hx
    rw [depth]
    omega

/-- Each operand is a part of the text that reading leaves as it is. -/
theorem Reads.of_mem_operands (h : Reads s r) :
    ∀ v ∈ r.operands, v.toList <:+: s ∧ Bare v.toList ∧ Covered 0 v.toList := by
  induction h with
  | @operand s hx =>
    intro v hv
    obtain rfl := List.mem_singleton.mp hv
    rw [String.toList_ofList]
    exact ⟨bodyOf_isInfix s, bare_bodyOf s, split?_eq_none_iff.mp hx⟩
  | operator hx _ _ ihl ihr =>
    obtain ⟨hl, hr⟩ := sides_isInfix hx
    refine forall_mem_operands_operator.mpr ⟨fun v hv => ?_, fun v hv => ?_⟩
    · obtain ⟨hin, hv⟩ := ihl v hv
      exact ⟨hin.trans hl, hv⟩
    · obtain ⟨hin, hv⟩ := ihr v hv
      exact ⟨hin.trans hr, hv⟩

end Reads

/-! ### The limit -/

/-- Each limit accepts the rule as the tree of the text, or refuses the text where the rule is deeper. -/
def IsTreeOf (r : Rule) (text : String) : Prop :=
  ∀ limit, (r.depth ≤ limit → parse limit text = .ok r) ∧ (limit < r.depth → parse limit text = .error (.tooDeep limit))

section Limit
variable {text : String} {r : Rule}

theorem isTreeOf_read (text : String) : (read text.toList).IsTreeOf text := by
  intro limit
  constructor
  · intro hdepth
    exact parse_eq_ok_iff.mpr ⟨rfl, hdepth⟩
  · intro hdeep
    rw [parse_eq, if_neg (Nat.not_le_of_lt hdeep)]

theorem IsTreeOf.eq_read (h : r.IsTreeOf text) : r = read text.toList := by
  obtain ⟨haccept, -⟩ := h r.depth
  obtain ⟨hread, -⟩ := parse_eq_ok_iff.mp (haccept (Nat.le_refl _))
  exact hread.symm

theorem IsTreeOf.depth_le (h : r.IsTreeOf text) : r.depth ≤ 1 + text.utf8ByteSize / 2 := by
  rw [h.eq_read, ← byteLength_toList]
  exact (reads_read text.toList).depth_le

theorem parse_of_le {limit more : Nat} (hle : limit ≤ more) (h : parse limit text = .ok r) :
    parse more text = .ok r := by
  obtain ⟨hread, hdepth⟩ := parse_eq_ok_iff.mp h
  exact parse_eq_ok_iff.mpr ⟨hread, Nat.le_trans hdepth hle⟩

theorem parse_eq_error {limit : Nat} {e : RuleError} (h : parse limit text = .error e) : e = .tooDeep limit := by
  rw [parse_eq] at h
  split at h
  · cases h
  · exact (Except.error.inj h).symm

/-- Each text has one tree, which is read without a limit, and has one level for its root and at most one more for every
two bytes of the text. A limit accepts this tree or refuses the text for its depth: so what is accepted within a limit is
accepted alike within any larger one, and a text is refused for no other reason. -/
theorem existsUnique_isTreeOf (text : String) :
    (∃! r : Rule, r.IsTreeOf text) ∧
      (∀ r : Rule, r.IsTreeOf text → Reads text.toList r ∧ r.depth ≤ 1 + text.utf8ByteSize / 2) ∧
      (∀ limit more r, limit ≤ more → parse limit text = .ok r → parse more text = .ok r) ∧
      ∀ limit e, parse limit text = .error e → e = .tooDeep limit := by
  refine ⟨⟨read text.toList, isTreeOf_read text, fun r h => h.eq_read⟩, fun r h => ⟨?_, h.depth_le⟩, ?_, ?_⟩
  · rw [h.eq_read]
    exact reads_read text.toList
  · intro limit more r hle h
    exact parse_of_le hle h
  · intro limit e h
    exact parse_eq_error h

/-- Keywords with nothing between them give the deepest tree that a text of four bytes can have. -/
theorem existsUnique_isTreeOf_keywords :
    (∃! r : Rule, r.IsTreeOf "OROR") ∧
      parse 2 "OROR" = .error (.tooDeep 2) ∧
      parse 3 "OROR" = .ok (.operator .or (.operand "") (.operator .or (.operand "") (.operand ""))) ∧
      parse 256 "OROR" = .ok (.operator .or (.operand "") (.operator .or (.operand "") (.operand ""))) ∧
      1 + "OROR".utf8ByteSize / 2 = 3 :=
  have hparse : parse 3 "OROR" = .ok (.operator .or (.operand "") (.operator .or (.operand "") (.operand ""))) := rfl
  ⟨(existsUnique_isTreeOf "OROR").1, rfl, hparse,
    (existsUnique_isTreeOf "OROR").2.2.1 3 256 _ (by decide) hparse, by decide⟩

end Limit

/-! ### From left to right -/

/-- The operands and keywords of a rule, written one after the other from left to right. -/
def inOrder : Rule → List Char
  | .operand text => text.toList
  | .operator op left right => left.inOrder ++ (op.keyword.toList ++ right.inOrder)

/-- Writing a rule adds nothing but blanks and parentheses. -/
theorem ink_write (r : Rule) : ink r.write.toList = ink r.inOrder := by
  induction r with
  | operand text => rw [ink_write_operand, inOrder]
  | operator op left right ihl ihr =>
    rw [ink_write_operator, ihl, ihr, inOrder, ink_append, ink_append, ink_keyword]

theorem ink_inOrder_read (s : List Char) : ink (read s).inOrder = ink s := by
  rw [← ink_write, ink_write_read]

/-- Of any text that is accepted, the tree has all characters but blanks and parentheses, each once and in their order.
Its operands are parts of the text without blanks at their ends, in which every keyword stands inside parentheses. -/
theorem inOrder_of_parse {limit : Nat} {text : String} {r : Rule} (h : parse limit text = .ok r) :
    ink r.inOrder = ink text.toList ∧
      ∀ v ∈ r.operands, v.toList <:+: text.toList ∧ trim v.toList = v.toList ∧ Covered 0 v.toList ∧
        leftmostConnective? v.toList = none := by
  obtain ⟨rfl, -⟩ := parse_eq_ok_iff.mp h
  refine ⟨ink_inOrder_read text.toList, fun v hv => ?_⟩
  obtain ⟨hin, hbare, hcovered⟩ := (reads_read text.toList).of_mem_operands v hv
  exact ⟨hin, trim_of_bare hbare, hcovered, connectiveFrom?_eq_none_iff.mpr hcovered⟩

/-- A pair of parentheses that belong to two groups is taken off, and in the operand behind the keyword another one is
hidden by more parentheses closed than opened. -/
theorem inOrder_of_parse_opened_group :
    parse 2 "((ä) AND b) OR\u2003(c)" = .ok (.operator .and (.operand "ä") (.operand "b) OR\u2003(c")) ∧
      ink (operator .and (.operand "ä") (.operand "b) OR\u2003(c")).inOrder = ink "((ä) AND b) OR\u2003(c)".toList ∧
      ink "((ä) AND b) OR\u2003(c)".toList = "äANDbORc".toList ∧
      ("b) OR\u2003(c").toList <:+: "((ä) AND b) OR\u2003(c)".toList ∧
      leftmostConnective? "b) OR\u2003(c".toList = none :=
  have hparse : parse 2 "((ä) AND b) OR\u2003(c)" = .ok (.operator .and (.operand "ä") (.operand "b) OR\u2003(c")) := rfl
  have hmem : "b) OR\u2003(c" ∈ (operator .and (.operand "ä") (.operand "b) OR\u2003(c")).operands :=
    List.mem_cons_of_mem "ä" List.mem_cons_self
  have hoperand := (inOrder_of_parse hparse).2 "b) OR\u2003(c" hmem
  ⟨hparse, (inOrder_of_parse hparse).1, by decide, hoperand.1, hoperand.2.2.2⟩

end Rule
end AttributeRules
