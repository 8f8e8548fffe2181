import AttributeRules.Json5.Reader
import AttributeRules.Proofs.PrintedValues

/-! Reading the indented form of a JSON value as JSON5.

JSON5 knows all that the printer writes but for two characters: the line separators, which end a line in JSON5 and so
cannot stand in a text as they are. The printer does not escape them. A value without them reads back as it was written,
and one with them is refused (`ofText?_toPrettyText`). -/

namespace AttributeRules.Json5
open Text Json

/-! ### Blanks -/

theorem isSpace_digit : ∀ n : Fin 58, 48 ≤ n.val → isSpace (Char.ofNat n) = false := by
  decide

theorem isSpace_of_isDigit {c : Char} (h : c.isDigit = true) : isSpace c = false := by
  have hrange : 48 ≤ c.toNat ∧ c.toNat ≤ 57 := Char.isDigit_iff_toNat.mp h
  have hspace := isSpace_digit ⟨c.toNat, by omega⟩ hrange.1
  rwa [Char.ofNat_toNat] at hspace

theorem isSpace_of_startsValue {c : Char} {rest : List Char} (h : StartsValue (c :: rest)) : isSpace c = false :=
  h.eq_false (fun _ => isSpace_of_isDigit) rfl

theorem skipBlanks_of_startsValue {s : List Char} (h : StartsValue s) : skipBlanks s = some s := by
  match s, h with
  | c :: rest, h =>
    have hspace := isSpace_of_startsValue h
    have hslash : c ≠ '/' := h.ne (by decide)
    unfold skipBlanks skip
    split <;> simp_all

theorem skipBlanks_space (s : List Char) : skipBlanks (' ' :: s) = skipBlanks s := rfl

theorem skipBlanks_comma (s : List Char) : skipBlanks (',' :: s) = some (',' :: s) := rfl

theorem skipBlanks_colon (s : List Char) : skipBlanks (':' :: s) = some (':' :: s) := rfl

theorem skipBlanks_gap (indent : Nat) (s : List Char) : skipBlanks (Layout.pretty.gap indent ++ s) = skipBlanks s := by
  have hspaces : skipBlanks (List.replicate indent ' ' ++ s) = skipBlanks s := by
    induction indent with
    | zero => rfl
    | succ n ih => rw [List.replicate_succ, List.cons_append, skipBlanks_space, ih]
  exact hspaces

theorem skipBlanks_gap_append {s : List Char} (h : StartsValue s) (indent : Nat) :
    skipBlanks (Layout.pretty.gap indent ++ s) = some s := by
  rw [skipBlanks_gap, skipBlanks_of_startsValue h]

/-! ### Texts -/

/-- Is the character one of the two line ends that a JSON text may hold as they are? -/
def isSeparator (c : Char) : Bool := c == '\u2028' || c == '\u2029'

/-- No line separator stands in the text. -/
def Unbroken (s : String) : Prop := ∀ c ∈ s.toList, isSeparator c = false

instance (s : String) : Decidable (Unbroken s) := List.decidableBAll (isSeparator · = false) s.toList

/-- A control character that is written by its code unit. -/
theorem readPieces_control {c : Char} (h : c.toNat < 0x20) (rest : List Char) :
    readPieces '"' ('\\' :: 'u' :: '0' :: '0' :: hexDigit (c.toNat / 16) :: hexDigit (c.toNat % 16) :: rest) =
      (readPieces '"' rest).map (push (.char c)) := by
  have hunit : Piece.ofUnit c.toNat = .char c := by
    rw [Piece.ofUnit, if_neg (by omega), if_neg (by omega), Char.ofNat_toNat]
  have hvalue := hexValue?_control ⟨c.toNat, h⟩
  rw [readPieces, hvalue]
  simp only [hunit]

theorem readPieces_escape {c : Char} (hc : isSeparator c = false) (rest : List Char) :
    readPieces '"' (escape c ++ rest) = (readPieces '"' rest).map (push (.char c)) := by
  by_cases hescaped : c = '"' ∨ c = '\\' ∨ c = '\x08' ∨ c = '\t' ∨ c = '\n' ∨ c = '\x0c' ∨ c = '\r'
  · rcases hescaped with rfl | rfl | rfl | rfl | rfl | rfl | rfl <;> rfl
  · simp only [not_or] at hescaped
    obtain ⟨hquote, hslash, hb, ht, hn, hf, hr⟩ := hescaped
    rw [escape, if_neg hquote, if_neg hslash, if_neg hb, if_neg ht, if_neg hn, if_neg hf, if_neg hr]
    split
    · rename_i hcontrol
      exact readPieces_control hcontrol rest
    · have hline : isLineEnd c = false := by
        simp only [isSeparator, Bool.or_eq_false_iff] at hc
        simp [isLineEnd, hn, hr, hc.1, hc.2]
      rw [List.singleton_append, readPieces]
      · simp [hquote, hslash, hline]
      all_goals simp_all

theorem readPieces_separator {c : Char} (hc : isSeparator c = true) (rest : List Char) :
    readPieces '"' (escape c ++ rest) = none := by
  simp only [isSeparator, Bool.or_eq_true, beq_iff_eq] at hc
  rcases hc with rfl | rfl <;> rfl

theorem readPieces_quoted {s : List Char} (h : ∀ c ∈ s, isSeparator c = false) (rest : List Char) :
    readPieces '"' (s.flatMap escape ++ '"' :: rest) = some (s.map .char, rest) := by
  induction s with
  | nil => rfl
  | cons c s ih =>
    obtain ⟨hc, hs⟩ := List.forall_mem_cons.mp h
    rw [List.flatMap_cons, List.append_assoc, readPieces_escape hc, ih hs]
    rfl

theorem readPieces_broken {s : List Char} (h : ∃ c ∈ s, isSeparator c = true) (rest : List Char) :
    readPieces '"' (s.flatMap escape ++ rest) = none := by
  induction s with
  | nil =>
    obtain ⟨c, hc, -⟩ := h
    cases hc
  | cons c s ih =>
    rw [List.flatMap_cons, List.append_assoc]
    cases hc : isSeparator c with
    | true => exact readPieces_separator hc _
    | false =>
      obtain ⟨d, hd, hsep⟩ := h
      rcases List.mem_cons.mp hd with rfl | hd
      · rw [hc] at hsep
        cases hsep
      · rw [readPieces_escape hc, ih ⟨d, hd, hsep⟩]
        rfl

theorem not_unbroken_iff {s : String} : ¬ Unbroken s ↔ ∃ c ∈ s.toList, isSeparator c = true := by
  simp [Unbroken]

theorem readText_quoted (s : String) (rest : List Char) :
    readText '"' (s.toList.flatMap escape ++ '"' :: rest) = if Unbroken s then some (some s, rest) else none := by
  have hcontent : content (s.toList.map .char) = some s := by
    rw [content, joinPieces_map_char, Option.map_some, String.ofList_toList]
  rw [readText]
  by_cases h : Unbroken s
  · simp only [readPieces_quoted h, if_pos h, Option.map_some, hcontent]
  · simp only [readPieces_broken (not_unbroken_iff.mp h), if_neg h, Option.map_none]

/-! ### Integers -/

/-- The text ends a value: it is empty, or goes on with a comma or a line break. -/
def EndsValue : List Char → Prop
  | [] => True
  | c :: _ => c = ',' ∨ c = '\n'

theorem endsValue_of_follows {rest : List Char} (h : Layout.pretty.Follows rest) : EndsValue rest := by
  cases h with
  | nothing => trivial
  | comma rest => exact .inl rfl
  | bracket indent rest | brace indent rest => exact .inr rfl

theorem EndsValue.any_isDigit {rest : List Char} (h : EndsValue rest) : rest.head?.any Char.isDigit = false := by
  match rest, h with
  | [], _ => rfl
  | c :: rest, hc => rcases hc with rfl | rfl <;> rfl

theorem readFraction_of_endsValue {rest : List Char} (h : EndsValue rest) : readFraction rest = (none, rest) := by
  match rest, h with
  | [], _ => rfl
  | c :: rest, hc => rcases hc with rfl | rfl <;> rfl

theorem readExponent_of_endsValue {rest : List Char} (h : EndsValue rest) : readExponent rest = some (none, rest) := by
  match rest, h with
  | [], _ => rfl
  | c :: rest, hc => rcases hc with rfl | rfl <;> rfl

theorem readDecimal_numeral (sign : Sign) (n : Nat) {rest : List Char} (h : EndsValue rest) :
    readDecimal sign (numeral n ++ rest) = some (.decimal sign true n 0, rest) := by
  have hempty : (numeral n).isEmpty = false := List.isEmpty_eq_false_iff.mpr Nat.toDigits_ne_nil
  have hzero : (decide ((numeral n).length ≥ 2) && (numeral n).head? == some '0') = false := by
    by_cases hn : n = 0
    · subst hn
      rfl
    · simp [head?_numeral hn]
  simp only [readDecimal, spanDigits_numeral h.any_isDigit, readFraction_of_endsValue h, readExponent_of_endsValue h,
    Option.getD_none, List.append_nil, hempty, hzero, Bool.or_self, Bool.false_eq_true, if_false, Option.map_some,
    numeralValue_numeral, Option.isNone_none, Bool.and_self, List.length_nil]
  rfl

/-- How an integer is written in JSON5. -/
def Numeral.ofInt : Int → Numeral
  | .ofNat n => .decimal .absent true n 0
  | .negSucc n => .decimal .minus true (n + 1) 0

theorem readNumeral_numeral {s : List Char} {sign : Sign} {n : Nat} {rest : List Char} (h : EndsValue rest)
    (hs : readSign s = (sign, numeral n ++ rest)) : readNumeral s = some (.decimal sign true n 0, rest) := by
  have hdecimal := readDecimal_numeral sign n h
  obtain ⟨d, t, ht, hd⟩ := exists_numeral_eq_cons n
  simp only [readNumeral, hs]
  split
  · rename_i heq
    rw [ht, List.cons_append] at heq
    obtain ⟨rfl, -⟩ := List.cons.inj heq
    exact absurd hd (by decide)
  · rename_i heq
    rw [ht, List.cons_append] at heq
    obtain ⟨rfl, -⟩ := List.cons.inj heq
    exact absurd hd (by decide)
  · -- The numeral of zero has one digit, and what follows it is no letter.
    rename_i c tail heq
    have hhead : (numeral n).head? = some '0' := by
      rw [ht, List.cons_append] at heq
      rw [ht, List.head?_cons, (List.cons.inj heq).1]
    obtain rfl : n = 0 := Decidable.byContradiction fun hn => head?_numeral hn hhead
    obtain rfl : rest = c :: tail := (List.cons.inj heq).2
    rw [if_neg (by rcases h with rfl | rfl <;> decide), hdecimal]
  · exact hdecimal

theorem readNumeral_integerText (n : Int) {rest : List Char} (h : EndsValue rest) :
    readNumeral (integerText n ++ rest) = some (.ofInt n, rest) := by
  cases n with
  | ofNat n =>
    refine readNumeral_numeral h ?_
    obtain ⟨d, t, ht, hd⟩ := exists_numeral_eq_cons n
    rw [integerText, ht, List.cons_append]
    unfold readSign
    split
    · rename_i heq
      obtain ⟨rfl, -⟩ := List.cons.inj heq
      exact absurd hd (by decide)
    · rename_i heq
      obtain ⟨rfl, -⟩ := List.cons.inj heq
      exact absurd hd (by decide)
    · rfl
  | negSucc n => exact readNumeral_numeral h rfl

/-! ### Values -/

/-- What JSON5 makes of JSON values: texts and names with line separators are refused. -/
def meaning : Meaning Json5 (Option String) where
  null := .null
  bool := .bool
  integer n := .number (.ofInt n)
  text s := if Unbroken s then some (.text (some s)) else none
  name s := if Unbroken s then some (some s) else none
  array := .array
  object := .object

def reader : Json.Reader Json5 (Option String) where
  value := readValue
  items := readItems
  members := readMembers

section Branches
variable {bound indent : Nat} {s t rest : List Char} {v : Option Json5}

theorem readValue_integerText (bound : Nat) (n : Int) (h : EndsValue rest) :
    readValue (bound + 1) (integerText n ++ rest) = some (.number (.ofInt n), rest) := by
  have hnumeral := readNumeral_integerText n h
  obtain ⟨c, t, ht, hc⟩ := exists_integerText_eq_cons n
  rw [ht, List.cons_append] at hnumeral ⊢
  have hword : readWord (c :: (t ++ rest)) = none := by
    unfold readWord
    split <;> simp_all
  unfold readValue
  split
  · simp_all
  · simp_all
  · simp_all
  · simp_all
  · simp only [hword, hnumeral, Option.map_some]

theorem readValue_quote (bound : Nat) (s : String) (rest : List Char) :
    readValue (bound + 1) (quote s ++ rest) = (meaning.text s).map (·, rest) := by
  rw [quote_append, readValue, readText_quoted, meaning]
  by_cases h : Unbroken s
  · simp only [if_pos h, Option.map_some]
  · simp only [if_neg h, Option.map_none]

theorem readName_quote (name : String) (s : List Char) :
    readName (quote name ++ s) = (meaning.name name).map (·, s) := by
  rw [quote_append, readName, readText_quoted, meaning]
  by_cases h : Unbroken name
  · simp only [if_pos h, Option.map_some]
  · simp only [if_neg h, Option.map_none]

theorem readValue_array (bound indent : Nat) (hs : StartsValue s) :
    readValue (bound + 1) ('[' :: (Layout.pretty.gap indent ++ s)) =
      (readItems bound s).map (Prod.map .array id) := by
  rw [readValue, skipBlanks_gap_append hs]
  show (readItems bound s).bind _ = _
  cases readItems bound s <;> rfl

theorem readValue_object (bound indent : Nat) (hs : StartsValue s) :
    readValue (bound + 1) ('{' :: (Layout.pretty.gap indent ++ s)) =
      (readMembers bound s).map (Prod.map .object id) := by
  rw [readValue, skipBlanks_gap_append hs]
  show (readMembers bound s).bind _ = _
  cases readMembers bound s <;> rfl

theorem readItems_last (hs : StartsValue s)
    (hv : readValue bound s = v.map (·, Layout.pretty.gap indent ++ ']' :: rest)) :
    readItems (bound + 1) s = v.map ([·], rest) := by
  have hclose : skipBlanks (Layout.pretty.gap indent ++ ']' :: rest) = some (']' :: rest) := skipBlanks_gap indent _
  unfold readItems
  split
  · exact absurd rfl (hs.ne (by decide))
  · cases v <;> simp [hv, hclose]

theorem readItems_next (hs : StartsValue s) (ht : StartsValue t)
    (hv : readValue bound s = v.map (·, ',' :: (Layout.pretty.gap indent ++ t))) :
    readItems (bound + 1) s = v.bind fun v => (readItems bound t).map (Prod.map (v :: ·) id) := by
  conv => lhs; unfold readItems
  split
  · exact absurd rfl (hs.ne (by decide))
  · cases v with
    | none => simp [hv]
    | some v =>
      cases hitems : readItems bound t <;> simp [hv, skipBlanks_comma, skipBlanks_gap_append ht, hitems, Prod.map]

theorem readMembers_last (name : String) (hs : StartsValue s)
    (hv : readValue bound s = v.map (·, Layout.pretty.gap indent ++ '}' :: rest)) :
    readMembers (bound + 1) (quote name ++ ':' :: (Layout.pretty.space ++ s)) =
      (meaning.name name).bind fun n => v.map fun v => ([(n, v)], rest) := by
  have hname := readName_quote name (':' :: (Layout.pretty.space ++ s))
  have hspace : skipBlanks (Layout.pretty.space ++ s) = some s := skipBlanks_of_startsValue hs
  have hclose : skipBlanks (Layout.pretty.gap indent ++ '}' :: rest) = some ('}' :: rest) := skipBlanks_gap indent _
  unfold readMembers
  split
  · simp_all [quote]
  · cases hn : meaning.name name with
    | none => simp [hname, hn]
    | some n => cases v <;> simp [hname, hn, skipBlanks_colon, hspace, hv, hclose]

theorem readMembers_next (name : String) (hs : StartsValue s) (ht : StartsValue t)
    (hv : readValue bound s = v.map (·, ',' :: (Layout.pretty.gap indent ++ t))) :
    readMembers (bound + 1) (quote name ++ ':' :: (Layout.pretty.space ++ s)) =
      (meaning.name name).bind fun n => v.bind fun v => (readMembers bound t).map (Prod.map ((n, v) :: ·) id) := by
  have hname := readName_quote name (':' :: (Layout.pretty.space ++ s))
  have hspace : skipBlanks (Layout.pretty.space ++ s) = some s := skipBlanks_of_startsValue hs
  conv => lhs; unfold readMembers
  split
  · simp_all [quote]
  · cases hn : meaning.name name with
    | none => simp [hname, hn]
    | some n =>
      cases v with
      | none => simp [hname, hn, skipBlanks_colon, hspace, hv]
      | some v =>
        cases hmembers : readMembers bound t <;>
          simp [hname, hn, skipBlanks_colon, hspace, hv, skipBlanks_comma, skipBlanks_gap_append ht, hmembers, Prod.map]

end Branches

/-- The reader takes each part as the indented form has it. -/
theorem reads : reader.Reads .pretty meaning where
  null _ _ := rfl
  bool _ b _ := by cases b <;> rfl
  integer bound n _ hrest := readValue_integerText bound n (endsValue_of_follows hrest)
  text := readValue_quote
  noItems _ _ := rfl
  noMembers _ _ := rfl
  array bound indent _ hs := readValue_array bound indent hs
  object bound indent _ hs := readValue_object bound indent hs
  lastItem := readItems_last
  nextItem := readItems_next
  lastMember name _ _ _ hs hv := readMembers_last name hs hv
  nextMember name _ _ _ hs ht hv := readMembers_next name hs ht hv

/-- The indented form of a value is read as its meaning in JSON5. -/
theorem ofText?_toPrettyText (j : Json) : Json5.ofText? j.toPrettyText = meaning.value j := by
  have hstart := startsValue_print .pretty 0 j []
  have hvalue : readValue ((j.print .pretty 0).length + 1) (j.print .pretty 0 ++ []) = (meaning.value j).map (·, []) :=
    reads.value_print j (Nat.le_succ _) .nothing
  rw [List.append_nil] at hstart hvalue
  rw [Json5.ofText?, toPrettyText, String.toList_ofList, skipBlanks_of_startsValue hstart]
  show (readValue _ _).bind _ = _
  rw [hvalue]
  cases meaning.value j <;> rfl

end Json5
end AttributeRules
