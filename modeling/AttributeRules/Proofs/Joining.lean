import Mathlib.Data.List.Infix
import AttributeRules.Proofs.Evaluation

/-! Joining operands in two ways: by a keyword written between their texts, and by combining the rules that the
texts read as.

Written out, the operands make a tree that leans to the right and is refused while it is read if it is too deep;
combined, they make one that leans to the left and is refused while it is evaluated. Both trees hold the same
operands in the same order and have the same depth, and the two connectives are associative. Within the limit both
ways thus come to the same, and beyond it the walk down the left spine ends before any operand is evaluated
(`evaluateCombined_eq`). -/

namespace AttributeRules
open Text

/-! ### Many results under one connective -/

namespace Connective

/-- The results of many sides joined: do all of them hold, or does any? -/
def applyAll : Connective → List Bool → Bool
  | .and, results => results.all id
  | .or, results => results.any id

theorem applyAll_cons (op : Connective) (b : Bool) (bs : List Bool) :
    op.applyAll (b :: bs) = op.apply b (op.applyAll bs) := by
  cases op <;> rfl

@[simp] theorem applyAll_singleton (op : Connective) (b : Bool) : op.applyAll [b] = b := by
  cases op <;> cases b <;> rfl

theorem apply_assoc (op : Connective) (a b c : Bool) : op.apply (op.apply a b) c = op.apply a (op.apply b c) := by
  cases op
  · exact Bool.and_assoc a b c
  · exact Bool.or_assoc a b c

theorem foldl_apply (op : Connective) (b : Bool) (bs : List Bool) : bs.foldl op.apply b = op.applyAll (b :: bs) := by
  induction bs generalizing b with
  | nil => exact (op.applyAll_singleton b).symm
  | cons c bs ih => rw [List.foldl_cons, ih, applyAll_cons, applyAll_cons, applyAll_cons, apply_assoc]

end Connective

namespace Rule

/-! ### Trees that lean to the left -/

section Combining
variable {op : Connective}

theorem combineAll_cons (first : Rule) (rest : List Rule) :
    combineAll op (first :: rest) = some (rest.foldl (.operator op) first) := rfl

theorem operands_foldl_operator (first : Rule) (rest : List Rule) :
    (rest.foldl (operator op) first).operands = first.operands ++ rest.flatMap operands := by
  induction rest generalizing first with
  | nil => simp
  | cons r rest ih => rw [List.foldl_cons, ih, operands_operator, List.flatMap_cons, List.append_assoc]

theorem joined_foldl_operator (result : String → Bool) (first : Rule) (rest : List Rule) :
    (rest.foldl (operator op) first).joined result = op.applyAll ((first :: rest).map (joined result)) := by
  have hfold : ∀ first : Rule, (rest.foldl (operator op) first).joined result =
      (rest.map (joined result)).foldl op.apply (first.joined result) := by
    induction rest with
    | nil => exact fun _ => rfl
    | cons r rest ih =>
      intro first
      rw [List.foldl_cons, ih, joined, List.map_cons, List.foldl_cons]
  rw [hfold, Connective.foldl_apply, List.map_cons]

/-- The way down to the first of many combined rules is as long as the list. Where it is too long, nothing is
evaluated. -/
theorem evaluateWithin_foldl_operator {context : Context} {limit levels : Nat} (first : Rule) (rest : List Rule)
    (h : levels ≤ rest.length) :
    evaluateWithin context limit levels (rest.foldl (.operator op) first) = .error (.tooDeep limit) := by
  induction levels generalizing rest with
  | zero => rfl
  | succ levels ih =>
    -- The last rule of the list stands at the root, and the others make its left side.
    rcases List.eq_nil_or_concat rest with rfl | ⟨init, last, rfl⟩
    · cases h
    · rw [List.concat_eq_append, List.length_append, List.length_singleton] at h
      rw [List.concat_eq_append, List.foldl_append, List.foldl_cons, List.foldl_nil, evaluateWithin,
        ih init (Nat.le_of_succ_le_succ h)]

/-- Each operand that is combined with a rule puts the rule one level deeper. -/
theorem depth_foldl_operand (r : Rule) (rest : List String) :
    ((rest.map operand).foldl (operator op) r).depth = r.depth + rest.length := by
  induction rest generalizing r with
  | nil => rfl
  | cons text rest ih =>
    have hpos := r.depth_pos
    rw [List.map_cons, List.foldl_cons, ih, depth, depth, List.length_cons]
    omega

end Combining

/-! ### Chains of operands, which lean to the right -/

/-- Operands joined from the right: the first one is the left side of the root. -/
def chain (op : Connective) (first : String) : List String → Rule
  | [] => .operand first
  | next :: rest => .operator op (.operand first) (chain op next rest)

section Chain
variable {op : Connective}

theorem operands_chain (first : String) (rest : List String) : (chain op first rest).operands = first :: rest := by
  induction rest generalizing first with
  | nil => rfl
  | cons next rest ih => rw [chain, operands_operator, ih, operands_operand, List.singleton_append]

theorem depth_chain (first : String) (rest : List String) : (chain op first rest).depth = rest.length + 1 := by
  induction rest generalizing first with
  | nil => rfl
  | cons next rest ih =>
    rw [chain, depth, depth, ih, List.length_cons]
    omega

theorem joined_chain (result : String → Bool) (first : String) (rest : List String) :
    (chain op first rest).joined result = op.applyAll ((first :: rest).map result) := by
  induction rest generalizing first with
  | nil => exact (op.applyAll_singleton _).symm
  | cons next rest ih => rw [chain, joined, joined, ih, ← Connective.applyAll_cons, ← List.map_cons]

/-- Within the limit it makes no difference to which side the operands lean. -/
theorem evaluate_foldl_operand {context : Context} {limit : Nat} {first : String} {rest : List String}
    (h : rest.length + 1 ≤ limit) :
    ((rest.map operand).foldl (operator op) (operand first)).evaluate context limit =
      (chain op first rest).evaluate context limit := by
  have hleft : ((rest.map operand).foldl (operator op) (operand first)).depth ≤ limit := by
    rwa [depth_foldl_operand, depth, Nat.add_comm]
  have hright : (chain op first rest).depth ≤ limit := by
    rwa [depth_chain]
  have hoperands : ((rest.map operand).foldl (operator op) (operand first)).operands = first :: rest := by
    rw [operands_foldl_operator, operands_operand, List.flatMap_map]
    simp
  have hjoined (result : String → Bool) :
      ((rest.map operand).foldl (operator op) (operand first)).joined result = (chain op first rest).joined result := by
    rw [joined_foldl_operator, joined_chain, List.map_cons, List.map_map, joined]
    rfl
  rw [evaluate_of_depth_le hleft, evaluate_of_depth_le hright, hoperands, operands_chain, hjoined]

end Chain

/-! ### Reading operands and chains -/

/-- An operand text that reading never splits: it holds no parenthesis and no keyword. -/
structure Plain (s : List Char) : Prop where
  noParen : NoParen s
  noKeyword : ¬ "AND".toList <:+: s ∧ ¬ "OR".toList <:+: s

instance (s : List Char) : Decidable (Plain s) :=
  decidable_of_iff (NoParen s ∧ ¬ "AND".toList <:+: s ∧ ¬ "OR".toList <:+: s)
    ⟨fun h => ⟨h.1, h.2⟩, fun h => ⟨h.noParen, h.noKeyword⟩⟩

theorem Plain.covered_trim {s : List Char} (h : Plain s) : Covered 0 (trim s) :=
  covered_of_noKeyword (fun hin => h.noKeyword.1 (hin.trans (trim_isInfix s)))
    fun hin => h.noKeyword.2 (hin.trans (trim_isInfix s))

/-- Of a text without parentheses, only the blanks at its ends are taken off. -/
theorem bodyOf_of_noParen {s : List Char} (h : NoParen s) : bodyOf s = trim s :=
  unwrap_of_not_isWrapped (isWrapped_of_noParen h.trim)

/-- The operand that a plain text reads as. -/
def trimmed (text : String) : String := String.ofList (trim text.toList)

theorem read_of_plain {text : String} (h : Plain text.toList) : read text.toList = .operand (trimmed text) := by
  have hbody := bodyOf_of_noParen h.noParen
  have hsplit : split? (bodyOf text.toList) = none := by
    rw [split?_eq_none_iff, hbody]
    exact h.covered_trim
  rw [read_of_none hsplit, hbody, trimmed]

theorem parse_of_plain {text : String} (h : Plain text.toList) {limit : Nat} (hlimit : 0 < limit) :
    parse limit text = .ok (.operand (trimmed text)) :=
  parse_eq_ok_iff.mpr ⟨read_of_plain h, hlimit⟩

/-- A text without parentheses is read as its split says. -/
theorem read_of_split {s : List Char} {x : Split} (hs : NoParen s) (hx : split? s = some x) :
    read s = .operator x.op (read x.left) (read x.right) := by
  obtain ⟨y, hy, hop, hleft, hright⟩ := split?_trim hx
  rw [← bodyOf_of_noParen hs] at hy
  rw [read_of_some hy, hop, read_of_trim_eq hleft, read_of_trim_eq hright]

/-- What stands between two operands of a chain that is written out. -/
def separator (op : Connective) : String := " " ++ op.keyword ++ " "

/-- Operands written one after the other, with the keyword of a connective between them. -/
def chainText (op : Connective) (operands : List String) : String := String.intercalate (separator op) operands

theorem toList_chainText_cons (op : Connective) (first next : String) (rest : List String) :
    (chainText op (first :: next :: rest)).toList =
      (first.toList ++ [' ']) ++ (op.keyword.toList ++ ([' '] ++ (chainText op (next :: rest)).toList)) := by
  rw [chainText, chainText, String.intercalate_cons_cons, String.toList_append, String.toList_append, separator]
  simp

theorem noParen_chainText (op : Connective) {operands : List String} (h : ∀ v ∈ operands, NoParen v.toList) :
    NoParen (chainText op operands).toList := by
  induction operands with
  | nil => exact noParen_nil
  | cons first rest ih =>
    obtain ⟨hfirst, hrest⟩ := List.forall_mem_cons.mp h
    cases rest with
    | nil => rwa [chainText, String.intercalate_singleton]
    | cons next rest =>
      have hspace : NoParen [' '] := by decide
      rw [toList_chainText_cons]
      exact (hfirst.append hspace).append ((noParen_keyword op).append (hspace.append (ih hrest)))

/-- A chain of operands that is written out reads as the operands joined from the right. -/
theorem read_chainText (op : Connective) {first : String} {rest : List String}
    (h : ∀ v ∈ first :: rest, Plain v.toList) :
    read (chainText op (first :: rest)).toList = chain op (trimmed first) (rest.map trimmed) := by
  induction rest generalizing first with
  | nil =>
    rw [chainText, String.intercalate_singleton, List.map_nil, chain]
    exact read_of_plain (h first List.mem_cons_self)
  | cons next rest ih =>
    obtain ⟨hfirst, hrest⟩ := List.forall_mem_cons.mp h
    have hspace : AllBlank [' '] := by decide
    have hnone := noParen_chainText op fun v hv => (h v hv).noParen
    have hsplit : split? (chainText op (first :: next :: rest)).toList =
        some ⟨first.toList ++ [' '], op, [' '] ++ (chainText op (next :: rest)).toList⟩ := by
      refine split?_eq_some_iff.mpr ⟨toList_chainText_cons op first next rest, ?_, ?_⟩
      · rw [balance_append, hfirst.noParen.balance_eq, balance_of_blanks hspace]
        rfl
      · exact (covered_of_noKeyword hfirst.noKeyword.1 hfirst.noKeyword.2).append_blanks hspace
    rw [read_of_split hnone hsplit, read_of_trim_eq (trim_append_of_blanks first.toList hspace),
      read_of_trim_eq (trim_blanks_append hspace (chainText op (next :: rest)).toList), read_of_plain hfirst, ih hrest,
      List.map_cons, chain]

/-! ### The two ways -/

/-- What a text comes to when it is read and evaluated within one limit. -/
def evaluateText (context : Context) (limit : Nat) (text : String) : Except RuleError Bool :=
  match parse limit text with
  | .error e => .error e
  | .ok r => r.evaluate context limit

/-- What texts come to when they are read one by one, combined under a connective and evaluated, all within one limit;
nothing if there is no text. -/
def evaluateCombined (op : Connective) (context : Context) (limit : Nat) (texts : List String) :
    Option (Except RuleError Bool) :=
  match texts.mapM (parse limit) with
  | .error e => some (.error e)
  | .ok rules => (combineAll op rules).map (·.evaluate context limit)

theorem evaluateText_eq (context : Context) (limit : Nat) (text : String) :
    evaluateText context limit text =
      if (read text.toList).depth ≤ limit then (read text.toList).evaluate context limit
      else .error (.tooDeep limit) := by
  rw [evaluateText, parse_eq]
  by_cases h : (read text.toList).depth ≤ limit
  · rw [if_pos h, if_pos h]
  · rw [if_neg h, if_neg h]

theorem mapM_parse_of_plain {limit : Nat} (hlimit : 0 < limit) {texts : List String}
    (h : ∀ v ∈ texts, Plain v.toList) :
    texts.mapM (parse limit) = .ok ((texts.map trimmed).map operand) := by
  induction texts with
  | nil => rfl
  | cons text rest ih =>
    obtain ⟨htext, hrest⟩ := List.forall_mem_cons.mp h
    rw [List.mapM_cons, parse_of_plain htext hlimit, ih hrest]
    rfl

/-- Operands joined by a keyword in one text come to the same as operands that are read on their own and combined: the
same result, or the same error. -/
theorem evaluateCombined_eq (op : Connective) (context : Context) (limit : Nat) {texts : List String} (hne : texts ≠ [])
    (h : ∀ v ∈ texts, Plain v.toList) :
    evaluateCombined op context limit texts = some (evaluateText context limit (chainText op texts)) := by
  obtain ⟨first, rest, rfl⟩ := List.exists_cons_of_ne_nil hne
  have hdepth : (read (chainText op (first :: rest)).toList).depth = rest.length + 1 := by
    rw [read_chainText op h, depth_chain, List.length_map]
  rw [evaluateText_eq, hdepth]
  cases limit with
  | zero =>
    have hfirst : parse 0 first = .error (.tooDeep 0) := rfl
    rw [if_neg (Nat.not_succ_le_zero _), evaluateCombined, List.mapM_cons, hfirst]
    rfl
  | succ n =>
    rw [evaluateCombined, mapM_parse_of_plain (Nat.succ_pos n) h]
    simp only [List.map_cons, combineAll_cons, Option.map_some]
    by_cases hle : rest.length + 1 ≤ n + 1
    · rw [if_pos hle, read_chainText op h, evaluate_foldl_operand (by rwa [List.length_map])]
    · rw [if_neg hle, evaluate, evaluateWithin_foldl_operator]
      rw [List.length_map, List.length_map]
      omega

/-- Operands with blanks around them, without any word and with an unknown comparator: within three levels the first
error is that of the empty operand, and within two the chain is too deep. -/
theorem evaluateCombined_malformed_operands :
    ["\ta = 1 ", "", "b ~ 2"] ≠ [] ∧
      (∀ v ∈ ["\ta = 1 ", "", "b ~ 2"], Plain v.toList) ∧
      chainText .or ["\ta = 1 ", "", "b ~ 2"] = "\ta = 1  OR  OR b ~ 2" ∧
      evaluateCombined .or (NameMap.empty.insert "a" (.integer 1)) 3 ["\ta = 1 ", "", "b ~ 2"] =
        some (evaluateText (NameMap.empty.insert "a" (.integer 1)) 3 (chainText .or ["\ta = 1 ", "", "b ~ 2"])) ∧
      evaluateCombined .or (NameMap.empty.insert "a" (.integer 1)) 3 ["\ta = 1 ", "", "b ~ 2"] =
        some (.error (.malformedOperand "" (.wordCount 0))) ∧
      evaluateCombined .or (NameMap.empty.insert "a" (.integer 1)) 2 ["\ta = 1 ", "", "b ~ 2"] =
        some (evaluateText (NameMap.empty.insert "a" (.integer 1)) 2 (chainText .or ["\ta = 1 ", "", "b ~ 2"])) ∧
      evaluateCombined .or (NameMap.empty.insert "a" (.integer 1)) 2 ["\ta = 1 ", "", "b ~ 2"] =
        some (.error (.tooDeep 2)) :=
  have hne : ["\ta = 1 ", "", "b ~ 2"] ≠ [] := List.cons_ne_nil _ _
  have h : ∀ v ∈ ["\ta = 1 ", "", "b ~ 2"], Plain v.toList := by decide +kernel
  ⟨hne, h, by decide +kernel, evaluateCombined_eq .or _ 3 hne h, rfl,
    evaluateCombined_eq .or _ 2 hne h, rfl⟩

end Rule
end AttributeRules
