import Mathlib.Logic.ExistsUnique
import AttributeRules.Proofs.ByteOrder
import AttributeRules.Proofs.ContextShape
import AttributeRules.Proofs.Operands

/-! The order that the comparators see.

Values of one kind are in a total order: integers by their size, texts by their bytes (`Value.Below`). Of two such values
exactly one comparator holds, the one that tells how they lie (`Comparator.existsUnique_holds?`). Values of different
kinds are only found to be unequal. -/

namespace AttributeRules
open Text

/-! ### Values of one kind -/

namespace Value

/-- One value comes before another of its kind. -/
inductive Below : Value → Value → Prop
  | integer {m n : Int64} : m.toInt < n.toInt → Below (.integer m) (.integer n)
  | text {s t : String} : bytes s < bytes t → Below (.text s) (.text t)

variable {u v w : Value}

@[simp] theorem below_integer_iff {m n : Int64} : (integer m).Below (.integer n) ↔ m < n := by
  rw [Int64.lt_iff_toInt_lt]
  refine ⟨fun h => ?_, .integer⟩
  cases h with
  | integer h => exact h

@[simp] theorem below_text_iff {s t : String} : (text s).Below (.text t) ↔ s < t := by
  rw [lt_iff_bytes_lt]
  refine ⟨fun h => ?_, .text⟩
  cases h with
  | text h => exact h

@[simp] theorem not_below_integer_text {n : Int64} {s : String} : ¬ (integer n).Below (.text s) := nofun

@[simp] theorem not_below_text_integer {n : Int64} {s : String} : ¬ (text s).Below (.integer n) := nofun

theorem Below.kind_eq (h : v.Below w) : v.kind = w.kind := by
  cases h <;> rfl

theorem Below.trans (h : u.Below v) (h' : v.Below w) : u.Below w := by
  cases h with
  | integer h =>
    cases h' with
    | integer h' => exact .integer (Int.lt_trans h h')
  | text h =>
    cases h' with
    | text h' => exact .text (List.lt_trans h h')

theorem not_below_self (v : Value) : ¬ v.Below v := by
  cases v with
  | integer n => simp
  | text s => simp

theorem Below.not_below (h : v.Below w) : ¬ w.Below v := fun h' => not_below_self v (h.trans h')

theorem Below.ne (h : v.Below w) : v ≠ w := by
  rintro rfl
  exact not_below_self v h

theorem below_or_eq_or_below (h : v.kind = w.kind) : v.Below w ∨ v = w ∨ w.Below v := by
  cases v with
  | integer m =>
    cases w with
    | integer n =>
      rcases Int.lt_trichotomy m.toInt n.toInt with hlt | heq | hgt
      · exact .inl (.integer hlt)
      · exact .inr (.inl (by rw [Int64.toInt_inj.mp heq]))
      · exact .inr (.inr (.integer hgt))
    | text t => cases h
  | text s =>
    cases w with
    | integer n => cases h
    | text t =>
      by_cases hlt : s < t
      · exact .inl (below_text_iff.mpr hlt)
      by_cases hgt : t < s
      · exact .inr (.inr (below_text_iff.mpr hgt))
      · exact .inr (.inl (by rw [String.le_antisymm (String.not_lt.mp hgt) (String.not_lt.mp hlt)]))

end Value

/-! ### Comparators -/

namespace Comparator
variable {v w : Value}

/-- How two values lie where a comparator holds. -/
def Says : Comparator → Value → Value → Prop
  | .greater, v, w => w.Below v
  | .less, v, w => v.Below w
  | .equal, v, w => v = w

theorem holds?_eq_some_true_iff {c : Comparator} : c.holds? v w = some true ↔ c.Says v w := by
  cases c with
  | equal => simp [holds?, Says]
  | _ => cases v <;> cases w <;> simp [holds?, Says]

theorem isOrdered_of_ne_equal {c : Comparator} (h : c ≠ .equal) : c.isOrdered = true := by
  cases c with
  | equal => exact absurd rfl h
  | _ => rfl

theorem existsUnique_holds? (h : v.kind = w.kind) : ∃! c : Comparator, c.holds? v w = some true := by
  simp only [holds?_eq_some_true_iff]
  rcases Value.below_or_eq_or_below h with hlt | rfl | hgt
  · refine ⟨.less, hlt, fun c hc => ?_⟩
    cases c with
    | greater => exact absurd hc hlt.not_below
    | less => rfl
    | equal => exact absurd hc hlt.ne
  · refine ⟨.equal, rfl, fun c hc => ?_⟩
    cases c with
    | equal => rfl
    | _ => exact absurd hc (Value.not_below_self v)
  · refine ⟨.greater, hgt, fun c hc => ?_⟩
    cases c with
    | greater => rfl
    | less => exact absurd hc hgt.not_below
    | equal => exact absurd hc.symm hgt.ne

end Comparator

/-! ### Operands -/

namespace Comparison
variable {context : Context} {name literal : String} {v w : Value}

/-- An operand of two words and a comparator between them is read as the comparison with what its literal denotes. -/
theorem ofText_operandText (hname : IsWord name.toList) (hliteral : IsWord literal.toList)
    (hread : readLiteral? literal.toList = some w) (c : Comparator) :
    ofText (c.operandText name literal) = .ok ⟨name, c, w⟩ := by
  rw [ofText_of_three_words (spaced_operandText hname (.of_isWord hliteral)), hread]
  simp only [String.ofList_toList, Comparator.ofText?_sign]

theorem evaluateOperand_operandText (hname : IsWord name.toList) (hliteral : IsWord literal.toList)
    (hread : readLiteral? literal.toList = some w) (hv : context.get? name = some v) (c : Comparator) :
    evaluateOperand context (c.operandText name literal) =
      match c.holds? v w with
      | some result => .ok result
      | none => .error (.kindMismatch (c.operandText name literal) v.kind w.kind) := by
  rw [evaluateOperand, ofText_operandText hname hliteral hread]
  cases hresult : c.holds? v w <;> simp only [evaluate, hv, hresult]

/-- An operand compares the value of its attribute with what its literal denotes. With a value of the same kind each
comparator has a result, and exactly one of them holds: the one that says how the two values lie. With a value of the
other kind they are unequal, and in no order. The order of texts by their bytes is the one by their code points. -/
theorem evaluateOperand_total_order (hname : IsWord name.toList) (hliteral : IsWord literal.toList)
    (hread : readLiteral? literal.toList = some w) (hv : context.get? name = some v) :
    (v.kind = w.kind →
      (∀ c : Comparator, ∃ b, evaluateOperand context (c.operandText name literal) = .ok b) ∧
        ∃! c : Comparator, evaluateOperand context (c.operandText name literal) = .ok true) ∧
      (v.kind ≠ w.kind →
        evaluateOperand context (Comparator.equal.operandText name literal) = .ok false ∧
          ∀ c : Comparator, c ≠ .equal → evaluateOperand context (c.operandText name literal) =
            .error (.kindMismatch (c.operandText name literal) v.kind w.kind)) ∧
      (∀ c : Comparator, evaluateOperand context (c.operandText name literal) = .ok true ↔ c.Says v w) ∧
      ∀ s t : String, bytes s < bytes t ↔ codePoints s < codePoints t := by
  have hresult := evaluateOperand_operandText hname hliteral hread hv
  have htrue : ∀ c : Comparator,
      evaluateOperand context (c.operandText name literal) = .ok true ↔ c.holds? v w = some true := by
    intro c
    rw [hresult]
    cases c.holds? v w <;> simp
  refine ⟨fun hkind => ⟨fun c => ?_, ?_⟩, fun hkind => ⟨?_, fun c hc => ?_⟩, fun c => ?_, fun s t => ?_⟩
  · have hsome : c.holds? v w ≠ none := fun hnone => (Comparator.holds?_eq_none_iff.mp hnone).2 hkind
    obtain ⟨b, hb⟩ := Option.ne_none_iff_exists'.mp hsome
    exact ⟨b, by rw [hresult, hb]⟩
  · simp only [htrue]
    exact Comparator.existsUnique_holds? hkind
  · have hne : v ≠ w := fun heq => hkind (congrArg Value.kind heq)
    rw [hresult, Comparator.holds?, decide_eq_false hne]
  · have hnone : c.holds? v w = none := Comparator.holds?_eq_none_iff.mpr ⟨Comparator.isOrdered_of_ne_equal hc, hkind⟩
    rw [hresult, hnone]
  · rw [htrue, Comparator.holds?_eq_some_true_iff]
  · rw [← lt_iff_bytes_lt, lt_iff_codePoints_lt]

/-- A character of three bytes comes before one of four. A numeral is unequal to a text and in no order with it. -/
theorem evaluateOperand_three_and_four_bytes :
    (∃! c : Comparator, evaluateOperand (NameMap.ofList [("ä", .text "\uffff")]) (c.operandText "ä" "'😀'") = .ok true) ∧
      evaluateOperand (NameMap.ofList [("ä", .text "\uffff")]) "ä < '😀'" = .ok true ∧
      evaluateOperand (NameMap.ofList [("ä", .text "\uffff")]) "ä = 007" = .ok false ∧
      evaluateOperand (NameMap.ofList [("ä", .text "\uffff")]) "ä > 007" =
        .error (.kindMismatch "ä > 007" .text .integer) := by
  have hname : IsWord "ä".toList := by decide +kernel
  have hvalue : (NameMap.ofList [("ä", Value.text "\uffff")]).get? "ä" = some (.text "\uffff") := rfl
  have htext : readLiteral? "'😀'".toList = some (.text "😀") := by decide +kernel
  have hnumeral : readLiteral? "007".toList = some (.integer 7) := by decide +kernel
  obtain ⟨hsame, -, hlie, -⟩ := evaluateOperand_total_order hname (by decide +kernel) htext hvalue
  obtain ⟨-, hother, -⟩ := evaluateOperand_total_order hname (by decide +kernel) hnumeral hvalue
  obtain ⟨hequal, hordered⟩ := hother (by decide)
  exact ⟨(hsame rfl).2, (hlie .less).mpr (.text (by decide +kernel)), hequal, hordered .greater (by decide)⟩

end Comparison
end AttributeRules
