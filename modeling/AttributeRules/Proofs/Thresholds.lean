import AttributeRules.Proofs.Comparators

/-! Raising the value of one attribute.

A value that is raised stays of its kind, so no error comes or goes. Where the attribute is only compared by `>`, each
operand that held still holds, and as both connectives keep that, so does the rule. Where it is only compared by `<`, the
same is true of lowering the value (`evaluate_of_raised`). -/

namespace AttributeRules

/-- The second value is the first one or comes after it, and is of its kind. -/
def Value.AtMost (v w : Value) : Prop := v = w ∨ v.Below w

theorem Value.AtMost.kind_eq {v w : Value} (h : v.AtMost w) : v.kind = w.kind := by
  rcases h with rfl | h
  · rfl
  · exact h.kind_eq

/-- What the comparator says of the first value, it says of the second. -/
def Comparator.Carries (c : Comparator) (v w : Value) : Prop := ∀ u, c.Says v u → c.Says w u

theorem Comparator.greater_carries {v w : Value} (h : v.AtMost w) : greater.Carries v w := by
  intro u hu
  rcases h with rfl | h
  · exact hu
  · exact Value.Below.trans hu h

theorem Comparator.less_carries {v w : Value} (h : v.AtMost w) : less.Carries w v := by
  intro u hu
  rcases h with rfl | h
  · exact hu
  · exact h.trans hu

/-! ### Contexts that differ in one value -/

/-- The contexts have these values of one attribute, and agree on all others. -/
structure Context.DifferAt (name : String) (v w : Value) (a b : Context) : Prop where
  first : a.get? name = some v
  second : b.get? name = some w
  others : ∀ other, other ≠ name → a.get? other = b.get? other

theorem operandHolds_iff {context : Context} {operand : String} :
    operandHolds context operand = true ↔
      ∃ c v, Comparison.ofText operand = .ok c ∧ context.get? c.attributeName = some v ∧
        c.comparator.Says v c.literal := by
  unfold operandHolds evaluateOperand
  cases Comparison.ofText operand with
  | error e => simp
  | ok c =>
    simp only [Comparison.evaluate]
    cases hv : context.get? c.attributeName with
    | none => simp [hv]
    | some v =>
      simp only [← Comparator.holds?_eq_some_true_iff]
      cases hresult : c.comparator.holds? v c.literal with
      | none => simp [hv, hresult]
      | some result => cases result <;> simp [hv, hresult]

namespace Context.DifferAt
variable {name : String} {v w : Value} {a b : Context} {r : Rule}

theorem symm (h : DifferAt name v w a b) : DifferAt name w v b a where
  first := h.second
  second := h.first
  others other hne := (h.others other hne).symm

theorem sameShape (h : DifferAt name v w a b) (hkind : v.kind = w.kind) (r : Rule) : r.SameShape a b := by
  intro c _
  by_cases hname : c.attributeName = name
  · rw [hname, kind?, kind?, h.first, h.second, Option.map_some, Option.map_some, hkind]
  · rw [kind?, kind?, h.others _ hname]

/-- An operand that compares the attribute by no other comparator holds in the second context if it does in the first. -/
theorem operandHolds_of_carries (h : DifferAt name v w a b) {comparator : Comparator}
    (hcarries : comparator.Carries v w) {operand : String}
    (honly : ∀ c, Comparison.ofText operand = .ok c → c.attributeName = name → c.comparator = comparator)
    (ha : operandHolds a operand = true) : operandHolds b operand = true := by
  obtain ⟨c, u, hc, hu, hlie⟩ := operandHolds_iff.mp ha
  by_cases hname : c.attributeName = name
  · rw [hname, h.first] at hu
    cases hu
    rw [honly c hc hname] at hlie
    refine operandHolds_iff.mpr ⟨c, w, hc, by rw [hname, h.second], ?_⟩
    rw [honly c hc hname]
    exact hcarries c.literal hlie
  · exact operandHolds_iff.mpr ⟨c, u, hc, by rw [← h.others _ hname, hu], hlie⟩

end Context.DifferAt

/-! ### Rules -/

namespace Rule
variable {r : Rule} {name : String} {v w : Value} {a b : Context}

/-- A rule goes on to hold where all its operands do that held, as no connective negates. -/
theorem joined_mono {f g : String → Bool} (h : ∀ t ∈ r.operands, f t = true → g t = true) (hf : r.joined f = true) :
    r.joined g = true := by
  induction r with
  | operand text => exact h text (by simp) hf
  | operator op left right ihl ihr =>
    obtain ⟨hl, hr⟩ := forall_mem_operands_operator.mp h
    cases op with
    | and =>
      obtain ⟨hleft, hright⟩ := Bool.and_eq_true_iff.mp hf
      exact Bool.and_eq_true_iff.mpr ⟨ihl hl hleft, ihr hr hright⟩
    | or => exact Bool.or_eq_true_iff.mpr ((Bool.or_eq_true_iff.mp hf).imp (ihl hl) (ihr hr))

/-- In contexts of one shape an evaluation ends with one error, or with the results of the operands joined in each. -/
theorem SameShape.evaluate_cases (h : r.SameShape a b) (limit : Nat) :
    (∃ e, r.evaluate a limit = .error e ∧ r.evaluate b limit = .error e) ∨
      (r.evaluate a limit = .ok (r.joined (operandHolds a)) ∧ r.evaluate b limit = .ok (r.joined (operandHolds b))) := by
  rw [evaluate_eq_outcomeOf, evaluate_eq_outcomeOf, outcomeOf, outcomeOf, h.findSome?_visits limit]
  cases (r.visits limit).findSome? (Visit.error? b limit) with
  | some e => exact .inl ⟨e, rfl, rfl⟩
  | none => exact .inr ⟨rfl, rfl⟩

/-- Raising the value of one attribute neither makes nor mends an error. A rule that compares the attribute by no other
comparator than `>` holds of the raised value if it did before, and one that compares it by no other than `<` does not
hold of it if it did not before. -/
theorem evaluate_of_raised (h : Context.DifferAt name v w a b) (hle : v.AtMost w) (r : Rule) (limit : Nat) :
    (∀ e, r.evaluate a limit = .error e ↔ r.evaluate b limit = .error e) ∧
      ((∀ c ∈ r.comparisons, c.attributeName = name → c.comparator = .greater) →
        r.evaluate a limit = .ok true → r.evaluate b limit = .ok true) ∧
      ((∀ c ∈ r.comparisons, c.attributeName = name → c.comparator = .less) →
        r.evaluate a limit = .ok false → r.evaluate b limit = .ok false) := by
  rcases (h.sameShape hle.kind_eq r).evaluate_cases limit with ⟨e, ha, hb⟩ | ⟨ha, hb⟩
  · simp [ha, hb]
  · rw [ha, hb]
    refine ⟨by simp, fun honly htrue => ?_, fun honly hfalse => ?_⟩
    · have hjoined : r.joined (operandHolds b) = true :=
        joined_mono (fun t ht => h.operandHolds_of_carries (Comparator.greater_carries hle) fun c hc =>
          honly c (mem_comparisons.mpr ⟨t, ht, hc⟩)) (Except.ok.inj htrue)
      rw [hjoined]
    · -- If the rule held of the raised value, it would hold of the one before.
      have hjoined : r.joined (operandHolds b) ≠ true := fun htrue => by
        have hbefore : r.joined (operandHolds a) = true :=
          joined_mono (fun t ht => h.symm.operandHolds_of_carries (Comparator.less_carries hle) fun c hc =>
            honly c (mem_comparisons.mpr ⟨t, ht, hc⟩)) htrue
        rw [hbefore] at hfalse
        cases hfalse
      rw [Bool.eq_false_iff.mpr hjoined]

/-- A text is raised past literals of fewer bytes, between which another attribute is compared by `=`. -/
theorem evaluate_of_raised_text :
    let rising := operator .or (.operand "a > 'é'") (.operator .and (.operand "b = 1") (.operand "a > zz"))
    let falling := operator .and (.operand "b = 0") (.operand "a < é")
    let before : Context := NameMap.ofList [("a", .text "ê"), ("b", .integer 0)]
    let after : Context := NameMap.ofList [("a", .text "→"), ("b", .integer 0)]
    (Value.text "ê").AtMost (.text "→") ∧
      (∀ c ∈ rising.comparisons, c.attributeName = "a" → c.comparator = .greater) ∧
      (∀ c ∈ falling.comparisons, c.attributeName = "a" → c.comparator = .less) ∧
      (rising.evaluate before 3 = .ok true ∧ rising.evaluate after 3 = .ok true) ∧
      (falling.evaluate before 2 = .ok false ∧ falling.evaluate after 2 = .ok false) := by
  intro rising falling before after
  have hle : (Value.text "ê").AtMost (.text "→") := .inr (.text (by decide +kernel))
  have hdiffer : Context.DifferAt "a" (.text "ê") (.text "→") before after :=
    { first := rfl
      second := rfl
      others := fun other hne => by
        simp [before, after, NameMap.get?_ofList, List.lookup_cons, beq_eq_false_iff_ne.mpr hne] }
  have hgreater : ∀ c ∈ rising.comparisons, c.attributeName = "a" → c.comparator = .greater := by decide +kernel
  have hless : ∀ c ∈ falling.comparisons, c.attributeName = "a" → c.comparator = .less := by decide +kernel
  have hrising : rising.evaluate before 3 = .ok true := by decide +kernel
  have hfalling : falling.evaluate before 2 = .ok false := by decide +kernel
  exact ⟨hle, hgreater, hless, ⟨hrising, (evaluate_of_raised hdiffer hle rising 3).2.1 hgreater hrising⟩,
    hfalling, (evaluate_of_raised hdiffer hle falling 2).2.2 hless hfalling⟩

end Rule
end AttributeRules
