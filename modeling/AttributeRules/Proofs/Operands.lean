import Mathlib.Data.List.Basic
import AttributeRules.Comparison
import AttributeRules.Proofs.Words

/-! The grammar of operands.

A text spells a comparison when it has three words: any word, one of the three comparators, and one that denotes a value.
A word of digits denotes its number, if that is a signed 64 bit integer, and any other word a text. Reading finds the
comparison that a text spells, and of any other text the first fault from the number of words over the literal to the
comparator (`ofText_eq_ok_iff`, `ofText_eq_error_iff`).

A value in its written form is denoted again unless it is a negative integer, which has no numeral, or a text with
blanks, which is more than one word (`ofText_iff_spells_and_written`). -/

namespace AttributeRules
open Text

theorem Comparator.ofText?_eq_some_iff {s : String} {c : Comparator} : ofText? s = some c ↔ c.sign = s := by
  constructor
  · intro h
    unfold ofText? at h
    split at h
    · rename_i hs
      cases h
      exact hs.symm
    · split at h
      · rename_i hs
        cases h
        exact hs.symm
      · split at h
        · rename_i hs
          cases h
          exact hs.symm
        · cases h
  · rintro rfl
    exact ofText?_sign c

/-- The text of an operand, with one space on both sides of the comparator. -/
def Comparator.operandText (c : Comparator) (name literal : String) : String :=
  name ++ " " ++ c.sign ++ " " ++ literal

namespace Comparison

/-! ### What a word denotes -/

/-- All characters are ASCII digits. -/
def AllDigits (word : List Char) : Prop := ∀ c ∈ word, c.isDigit = true

instance (word : List Char) : Decidable (AllDigits word) := List.decidableBAll (Char.isDigit · = true) word

/-- The word is a numeral beyond the signed 64 bit integers. -/
def OutOfRange (word : List Char) : Prop := AllDigits word ∧ 9223372036854775807 < numeralValue word

/-- The word less one quote in front, if it starts with one, and then less one at its end, if it ends with one. -/
def Unquotes (word s : List Char) : Prop :=
  ∃ m, (word = '\'' :: m ∨ word = m ∧ word.head? ≠ some '\'') ∧ (m = s ++ ['\''] ∨ m = s ∧ m.getLast? ≠ some '\'')

/-- The value that a word denotes as a literal. -/
inductive Denotes : List Char → Value → Prop
  | integer {word : List Char} {n : Int64} : AllDigits word → n.toInt = numeralValue word → Denotes word (.integer n)
  | text {word : List Char} {s : String} : ¬ AllDigits word → Unquotes word s.toList → Denotes word (.text s)

theorem dropQuote_eq_iff {s t : List Char} : dropQuote s = t ↔ s = '\'' :: t ∨ s = t ∧ s.head? ≠ some '\'' := by
  unfold dropQuote
  split
  · simp
  · rename_i h
    have hhead : s.head? ≠ some '\'' := by
      intro hs
      obtain ⟨rest, rfl⟩ := List.head?_eq_some_iff.mp hs
      exact h rest rfl
    constructor
    · rintro rfl
      exact .inr ⟨rfl, hhead⟩
    · rintro (rfl | ⟨rfl, -⟩)
      · exact absurd rfl hhead
      · rfl

theorem dropQuotes_eq_iff {word s : List Char} : dropQuotes word = s ↔ Unquotes word s := by
  have hback : ∀ m, (dropQuote m.reverse).reverse = s ↔ m = s ++ ['\''] ∨ m = s ∧ m.getLast? ≠ some '\'' := by
    intro m
    rw [List.reverse_eq_iff, dropQuote_eq_iff, List.reverse_eq_iff, List.reverse_cons, List.reverse_reverse,
      List.reverse_inj, List.head?_reverse]
  rw [dropQuotes, hback]
  constructor
  · intro h
    exact ⟨dropQuote word, dropQuote_eq_iff.mp rfl, h⟩
  · rintro ⟨m, hfront, hm⟩
    rwa [dropQuote_eq_iff.mpr hfront]

section Literals
variable {word : List Char}

theorem isNumeral_iff (hne : word ≠ []) : isNumeral word = true ↔ AllDigits word := by
  simp [isNumeral, AllDigits, hne]

theorem readLiteral?_of_allDigits (hne : word ≠ []) (h : AllDigits word) :
    readLiteral? word =
      if numeralValue word < 0x8000000000000000 then some (.integer (Int64.ofNat (numeralValue word))) else none := by
  rw [readLiteral?, if_pos ((isNumeral_iff hne).mpr h)]

theorem readLiteral?_of_not_allDigits (hne : word ≠ []) (h : ¬ AllDigits word) :
    readLiteral? word = some (.text (String.ofList (dropQuotes word))) := by
  rw [readLiteral?, if_neg fun hnumeral => h ((isNumeral_iff hne).mp hnumeral)]

theorem readLiteral?_of_denotes (hne : word ≠ []) {v : Value} (h : Denotes word v) : readLiteral? word = some v := by
  cases h with
  | @integer n hdigits hn =>
    have hlt : numeralValue word < 2 ^ 63 := by
      have := n.toInt_lt
      omega
    have heq : Int64.ofNat (numeralValue word) = n := by
      rw [← Int64.toInt_inj, Int64.toInt_ofNat_of_lt hlt, hn]
    rw [readLiteral?_of_allDigits hne hdigits, if_pos (by omega), heq]
  | text hword hs => rw [readLiteral?_of_not_allDigits hne hword, dropQuotes_eq_iff.mpr hs, String.ofList_toList]

theorem readLiteral?_of_outOfRange (hne : word ≠ []) (h : OutOfRange word) : readLiteral? word = none := by
  obtain ⟨hdigits, hlarge⟩ := h
  rw [readLiteral?_of_allDigits hne hdigits, if_neg (by omega)]

theorem exists_denotes (h : ¬ OutOfRange word) : ∃ v, Denotes word v := by
  by_cases hdigits : AllDigits word
  · have hle : ¬ 9223372036854775807 < numeralValue word := fun hlarge => h ⟨hdigits, hlarge⟩
    exact ⟨_, .integer hdigits (Int64.toInt_ofNat_of_lt (show numeralValue word < 2 ^ 63 by omega))⟩
  · refine ⟨.text (String.ofList (dropQuotes word)), .text hdigits ?_⟩
    rw [String.toList_ofList]
    exact dropQuotes_eq_iff.mp rfl

theorem Denotes.not_outOfRange {v : Value} (h : Denotes word v) : ¬ OutOfRange word := by
  rintro ⟨hdigits, hlarge⟩
  cases h with
  | @integer n _ hn =>
    have := n.toInt_lt
    omega
  | text hword => exact hword hdigits

end Literals

/-! ### What a text spells -/

/-- The comparison that a text spells. -/
inductive Spells (s : List Char) : Comparison → Prop
  | words {name sign literal : List Char} {comparator : Comparator} {value : Value} :
    Spaced [name, sign, literal] s → comparator.sign.toList = sign → Denotes literal value →
      Spells s ⟨String.ofList name, comparator, value⟩

/-- The first fault of a text that spells no comparison. -/
inductive Faulty (operand : String) : RuleError → Prop
  | wordCount {ws : List (List Char)} : Spaced ws operand.toList → ws.length ≠ 3 →
    Faulty operand (.malformedOperand operand (.wordCount ws.length))
  | outOfRange {name sign literal : List Char} : Spaced [name, sign, literal] operand.toList → OutOfRange literal →
    Faulty operand (.malformedOperand operand (.outOfRange (String.ofList literal)))
  | unknownComparator {name sign literal : List Char} : Spaced [name, sign, literal] operand.toList →
    ¬ OutOfRange literal → (∀ comparator : Comparator, comparator.sign.toList ≠ sign) →
      Faulty operand (.unknownComparator (String.ofList sign) operand)

section Operands
variable {operand : String} {name sign literal : List Char}

theorem literal_ne_nil (h : Spaced [name, sign, literal] operand.toList) : literal ≠ [] :=
  (h.isWord literal (by simp)).ne_nil

theorem ofText_of_three_words (h : Spaced [name, sign, literal] operand.toList) :
    ofText operand =
      match readLiteral? literal with
      | none => .error (.malformedOperand operand (.outOfRange (String.ofList literal)))
      | some value =>
        match Comparator.ofText? (String.ofList sign) with
        | none => .error (.unknownComparator (String.ofList sign) operand)
        | some comparator => .ok ⟨String.ofList name, comparator, value⟩ := by
  rewrite [ofText, h.words_eq]
  rfl

theorem ofText_of_spells {c : Comparison} (h : Spells operand.toList c) : ofText operand = .ok c := by
  obtain ⟨hwords, rfl, hvalue⟩ := h
  rw [ofText_of_three_words hwords, readLiteral?_of_denotes (literal_ne_nil hwords) hvalue, String.ofList_toList,
    Comparator.ofText?_sign]

theorem ofText_of_faulty {e : RuleError} (h : Faulty operand e) : ofText operand = .error e := by
  cases h with
  | @wordCount ws hwords hcount =>
    rw [ofText, hwords.words_eq]
    split
    · exact absurd rfl hcount
    · rfl
  | outOfRange hwords hlarge =>
    rw [ofText_of_three_words hwords, readLiteral?_of_outOfRange (literal_ne_nil hwords) hlarge]
  | @unknownComparator name sign literal hwords hrange hsign =>
    obtain ⟨value, hvalue⟩ := exists_denotes hrange
    have hnone : Comparator.ofText? (String.ofList sign) = none := by
      refine Option.eq_none_iff_forall_ne_some.mpr fun comparator hcomparator => hsign comparator ?_
      rw [Comparator.ofText?_eq_some_iff.mp hcomparator, String.toList_ofList]
    rw [ofText_of_three_words hwords, readLiteral?_of_denotes (literal_ne_nil hwords) hvalue, hnone]

/-- A text spells a comparison or has a fault. -/
theorem exists_spells_or_faulty (operand : String) : (∃ c, Spells operand.toList c) ∨ ∃ e, Faulty operand e := by
  have hwords := spaced_words operand.toList
  by_cases hcount : (words operand.toList).length = 3
  · obtain ⟨name, sign, literal, hthree⟩ := List.length_eq_three.mp hcount
    rw [hthree] at hwords
    by_cases hlarge : OutOfRange literal
    · exact .inr ⟨_, .outOfRange hwords hlarge⟩
    · by_cases hsign : ∃ comparator : Comparator, comparator.sign.toList = sign
      · obtain ⟨comparator, hsign⟩ := hsign
        obtain ⟨value, hvalue⟩ := exists_denotes hlarge
        exact .inl ⟨_, .words hwords hsign hvalue⟩
      · exact .inr ⟨_, .unknownComparator hwords hlarge fun comparator h => hsign ⟨comparator, h⟩⟩
  · exact .inr ⟨_, .wordCount hwords hcount⟩

theorem ofText_eq_ok_iff {c : Comparison} : ofText operand = .ok c ↔ Spells operand.toList c := by
  refine ⟨fun h => ?_, ofText_of_spells⟩
  rcases exists_spells_or_faulty operand with ⟨c', hspells⟩ | ⟨e, hfaulty⟩
  · cases h.symm.trans (ofText_of_spells hspells)
    exact hspells
  · cases h.symm.trans (ofText_of_faulty hfaulty)

theorem ofText_eq_error_iff {e : RuleError} : ofText operand = .error e ↔ Faulty operand e := by
  refine ⟨fun h => ?_, ofText_of_faulty⟩
  rcases exists_spells_or_faulty operand with ⟨c, hspells⟩ | ⟨e', hfaulty⟩
  · cases h.symm.trans (ofText_of_spells hspells)
  · cases h.symm.trans (ofText_of_faulty hfaulty)
    exact hfaulty

end Operands

/-! ### Written comparisons -/

/-- The written form of a comparison, with one space on both sides of the comparator. -/
def written (c : Comparison) : String := c.attributeName ++ " " ++ c.comparator.sign ++ " " ++ c.literal.written

theorem isBlank_of_isDigit {c : Char} (h : c.isDigit = true) : isBlank c = false := by
  have hrange : 48 ≤ c.toNat ∧ c.toNat ≤ 57 := Char.isDigit_iff_toNat.mp h
  simp only [isBlank, Bool.or_eq_false_iff, Bool.and_eq_false_imp, decide_eq_true_eq, decide_eq_false_iff_not,
    beq_eq_false_iff_ne]
  omega

theorem isWord_sign (comparator : Comparator) : IsWord comparator.sign.toList := by
  cases comparator <;> decide +kernel

theorem allDigits_numeral (n : Nat) : AllDigits (numeral n) :=
  fun _ hc => isDigit_of_mem_numeral hc

theorem isWord_numeral (n : Nat) : IsWord (numeral n) where
  ne_nil := Nat.toDigits_ne_nil
  noBlank c hc := isBlank_of_isDigit (allDigits_numeral n c hc)

theorem toList_operandText (c : Comparator) (name literal : String) :
    (c.operandText name literal).toList =
      name.toList ++ ([' '] ++ (c.sign.toList ++ ([' '] ++ literal.toList))) := by
  simp [Comparator.operandText]

/-- The text of an operand has the words of its literal behind its attribute and its comparator. -/
theorem spaced_operandText {c : Comparator} {name literal : String} {ws : List (List Char)} (hname : IsWord name.toList)
    (h : Spaced ws literal.toList) :
    Spaced (name.toList :: c.sign.toList :: ws) (c.operandText name literal).toList := by
  have hspace : AllBlank [' '] := by decide
  rw [toList_operandText]
  exact .word allBlank_nil hname rfl (.word hspace (isWord_sign c) rfl (h.blanks_append hspace))

/-- A comparison with a word for its attribute is spelled by its written form where the written value is one word that
denotes the value. -/
theorem spells_written_iff {c : Comparison} (hname : IsWord c.attributeName.toList) :
    Spells c.written.toList c ↔ ∃ word, Spaced [word] c.literal.written.toList ∧ Denotes word c.literal := by
  constructor
  · intro h
    have hwritten : Spaced _ c.written.toList := spaced_operandText hname (spaced_words c.literal.written.toList)
    obtain ⟨hwords, -, hvalue⟩ := h
    have hthree := hwritten.words_eq.symm.trans hwords.words_eq
    exact ⟨_, words_eq_iff.mp (List.cons.inj (List.cons.inj hthree).2).2, hvalue⟩
  · rintro ⟨word, hword, hvalue⟩
    have h : Spells c.written.toList _ := .words (spaced_operandText hname hword) rfl hvalue
    rwa [String.ofList_toList] at h

/-! ### Written values -/

theorem toList_written_text (s : String) : (Value.text s).written.toList = '\'' :: (s.toList ++ ['\'']) := by
  simp [Value.written]

theorem bare_quoted (s : List Char) : Bare ('\'' :: (s ++ ['\''])) where
  first c hc := by
    obtain rfl : '\'' = c := by simpa using hc
    decide
  last c hc := by
    obtain rfl : '\'' = c := by simpa [List.getLast?_cons] using hc
    decide

theorem isWord_quoted {s : List Char} (h : ∀ c ∈ s, isBlank c = false) : IsWord ('\'' :: (s ++ ['\''])) := by
  refine ⟨List.cons_ne_nil _ _, fun c hc => ?_⟩
  simp only [List.mem_cons, List.mem_append, List.not_mem_nil, or_false] at hc
  rcases hc with rfl | hc | rfl
  · decide
  · exact h c hc
  · decide

/-- A natural number is denoted by its numeral. -/
theorem denotes_numeral {n : Int64} {m : Nat} (h : n.toInt = m) : Denotes (numeral m) (.integer n) := by
  refine .integer (allDigits_numeral m) ?_
  rw [numeralValue_numeral, h]

/-- Of a text between quotes, reading drops these and no more. -/
theorem denotes_quoted (s : String) : Denotes ('\'' :: (s.toList ++ ['\''])) (.text s) := by
  refine .text (fun hdigits => ?_) ⟨s.toList ++ ['\''], .inl rfl, .inl rfl⟩
  exact absurd (hdigits '\'' List.mem_cons_self) (by decide)

/-- The values whose written form is one word that denotes them. -/
theorem denotes_written_iff {v : Value} :
    (∃ word, Spaced [word] v.written.toList ∧ Denotes word v) ↔
      (∃ n, v = .integer n ∧ 0 ≤ n.toInt) ∨ ∃ s, v = .text s ∧ ∀ c ∈ s.toList, isBlank c = false := by
  constructor
  · rintro ⟨word, hword, hdenotes⟩
    cases hdenotes with
    | @integer n _ hn =>
      refine .inl ⟨n, rfl, ?_⟩
      rw [hn]
      exact Int.natCast_nonneg _
    | @text s _ _ =>
      rw [toList_written_text] at hword
      have hquoted := hword.isWord word List.mem_cons_self
      rw [← hword.eq_of_bare (bare_quoted s.toList)] at hquoted
      exact .inr ⟨s, rfl, fun c hc => hquoted.noBlank c (by simp [hc])⟩
  · rintro (⟨n, rfl, hn⟩ | ⟨s, rfl, hs⟩)
    · obtain ⟨m, hm⟩ := Int.eq_ofNat_of_zero_le hn
      have hwritten : (Value.integer n).written.toList = numeral m := by
        rw [Value.written, String.toList_ofList, hm]
        rfl
      rw [hwritten]
      exact ⟨numeral m, .of_isWord (isWord_numeral m), denotes_numeral hm⟩
    · rw [toList_written_text]
      exact ⟨_, .of_isWord (isWord_quoted hs), denotes_quoted s⟩

/-! ### The grammar, and what is written in it -/

theorem exists_sign_iff {sign : List Char} :
    (∃ comparator : Comparator, comparator.sign.toList = sign) ↔ sign = ['>'] ∨ sign = ['<'] ∨ sign = ['='] := by
  constructor
  · rintro ⟨comparator, rfl⟩
    cases comparator
    · exact .inl rfl
    · exact .inr (.inl rfl)
    · exact .inr (.inr rfl)
  · rintro (rfl | rfl | rfl)
    · exact ⟨.greater, rfl⟩
    · exact ⟨.less, rfl⟩
    · exact ⟨.equal, rfl⟩

theorem exists_spells_iff {s : List Char} :
    (∃ c, Spells s c) ↔
      ∃ name sign literal, words s = [name, sign, literal] ∧ ¬ OutOfRange literal ∧
        (sign = ['>'] ∨ sign = ['<'] ∨ sign = ['=']) := by
  constructor
  · rintro ⟨-, hwords, hsign, hvalue⟩
    exact ⟨_, _, _, hwords.words_eq, hvalue.not_outOfRange, exists_sign_iff.mp ⟨_, hsign⟩⟩
  · rintro ⟨name, sign, literal, hwords, hrange, hsign⟩
    obtain ⟨comparator, hsign⟩ := exists_sign_iff.mpr hsign
    obtain ⟨value, hvalue⟩ := exists_denotes hrange
    exact ⟨_, .words (words_eq_iff.mp hwords) hsign hvalue⟩

/-- Reading accepts the texts of three words of which the last one is no numeral beyond the range of integers and the
middle one a comparator; it finds the comparison that such a text spells, and the first fault of any other text. A
comparison whose attribute is a word is read from its written form exactly when its value is an integer that is not
negative or a text without blanks. -/
theorem ofText_iff_spells_and_written :
    (∀ operand,
      ((∃ c, ofText operand = .ok c) ↔
        ∃ name sign literal, words operand.toList = [name, sign, literal] ∧ ¬ OutOfRange literal ∧
          (sign = ['>'] ∨ sign = ['<'] ∨ sign = ['='])) ∧
      (∀ c, ofText operand = .ok c ↔ Spells operand.toList c) ∧
      ∀ e, ofText operand = .error e ↔ Faulty operand e) ∧
    ∀ c : Comparison, c.attributeName ≠ "" → (∀ char ∈ c.attributeName.toList, isBlank char = false) →
      (ofText c.written = .ok c ↔
        (∃ n, c.literal = .integer n ∧ 0 ≤ n.toInt) ∨
          ∃ s, c.literal = .text s ∧ ∀ char ∈ s.toList, isBlank char = false) := by
  constructor
  · intro operand
    refine ⟨?_, fun c => ofText_eq_ok_iff, fun e => ofText_eq_error_iff⟩
    simp only [ofText_eq_ok_iff, exists_spells_iff]
  · intro c hne hblank
    have hname : IsWord c.attributeName.toList := ⟨mt String.toList_eq_nil_iff.mp hne, hblank⟩
    rw [ofText_eq_ok_iff, spells_written_iff hname, denotes_written_iff]

/-- A text of digits in quotes is read from between the quotes that are written around it, and a negative integer is not
read as one. A numeral beyond the range is found before an unknown comparator. -/
theorem ofText_written_digits_in_quotes :
    ofText (written ⟨"ä", .less, .text "'35'"⟩) = .ok ⟨"ä", .less, .text "'35'"⟩ ∧
      written ⟨"ä", .less, .text "'35'"⟩ = "ä < ''35''" ∧
      ofText (written ⟨"ä", .less, .integer (-35)⟩) ≠ .ok ⟨"ä", .less, .integer (-35)⟩ ∧
      ofText "\tä ~\u2003009223372036854775808" =
        .error (.malformedOperand "\tä ~\u2003009223372036854775808" (.outOfRange "009223372036854775808")) := by
  have hname : IsWord "ä".toList := by decide +kernel
  have hquoted : IsWord "'35'".toList := by decide +kernel
  refine ⟨?_, rfl, fun h => ?_, ?_⟩
  · exact (ofText_iff_spells_and_written.2 ⟨"ä", .less, .text "'35'"⟩ (by decide) hname.noBlank).mpr
      (.inr ⟨_, rfl, hquoted.noBlank⟩)
  · rcases (ofText_iff_spells_and_written.2 ⟨"ä", .less, .integer (-35)⟩ (by decide) hname.noBlank).mp h with
      ⟨n, hn, hsign⟩ | ⟨s, hs, -⟩
    · cases hn
      exact absurd hsign (by decide)
    · cases hs
  · have hwords : words "\tä ~\u2003009223372036854775808".toList =
        ["ä".toList, "~".toList, "009223372036854775808".toList] := by decide +kernel
    refine ((ofText_iff_spells_and_written.1 _).2.2 _).mpr ?_
    exact Faulty.outOfRange (words_eq_iff.mp hwords) ⟨by decide +kernel, by decide +kernel⟩

end Comparison
end AttributeRules
