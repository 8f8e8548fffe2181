import AttributeRules.Json.Printer
import AttributeRules.Json.Reader
import AttributeRules.Proofs.Numerals
import AttributeRules.Proofs.PrintedValues

/-! How texts and integers are spelled in JSON.

A text has many spellings, since each of its characters may be escaped, and an integer has one. The readers take off the
front exactly what spells a text (`readText_eq_some_iff`) or an integer (`readInteger_eq_some_iff`), and the printer
writes one of the spellings (`spellsText_quote`). -/

namespace AttributeRules.Json
open Text

/-! ### Blanks -/

/-- Nothing but blanks. -/
def Blanks (s : List Char) : Prop := ∀ c ∈ s, isSpace c = true

theorem Blanks.nil : Blanks [] := List.forall_mem_nil _

theorem skipSpace_append {b : List Char} (hb : Blanks b) (s : List Char) : skipSpace (b ++ s) = skipSpace s :=
  List.dropWhile_append_of_pos hb

theorem skipSpace_append_cons {b : List Char} {c : Char} (hb : Blanks b) (hc : isSpace c = false) (s : List Char) :
    skipSpace (b ++ c :: s) = c :: s := by
  rw [skipSpace_append hb]
  exact List.dropWhile_cons_of_neg (Bool.eq_false_iff.mp hc)

theorem isSpace_of_isDigit {c : Char} (h : c.isDigit = true) : isSpace c = false := by
  cases hspace : isSpace c with
  | false => rfl
  | true =>
    simp only [isSpace, Bool.or_eq_true, beq_iff_eq] at hspace
    rcases hspace with ((rfl | rfl) | rfl) | rfl <;> exact absurd h (by decide)

theorem exists_blanks_append (s : List Char) : ∃ b, Blanks b ∧ s = b ++ skipSpace s :=
  ⟨s.takeWhile isSpace, fun c hc => List.all_eq_true.mp List.all_takeWhile c hc, List.takeWhile_append_dropWhile.symm⟩

theorem skipSpace_eq_nil_iff {s : List Char} : skipSpace s = [] ↔ Blanks s := by
  constructor
  · intro h
    obtain ⟨b, hb, hs⟩ := exists_blanks_append s
    rwa [hs, h, List.append_nil]
  · intro hb
    rw [← List.append_nil s, skipSpace_append hb]
    rfl

/-! ### Texts -/

/-- The parts spell the items in their order, one each. -/
inductive SpellsAll {α : Type} (spells : List Char → α → Prop) : List Char → List α → Prop
  | nil : SpellsAll spells [] []
  | cons {s t : List Char} {x : α} {xs : List α} (hx : spells s x) (hxs : SpellsAll spells t xs) :
    SpellsAll spells (s ++ t) (x :: xs)

/-- The escape of a code unit by its four hexadecimal digits. -/
inductive SpellsUnit : List Char → Nat → Prop
  | digits {a b c d : Char} {n : Nat} (hvalue : hexValue? 0 [a, b, c, d] = some n) :
    SpellsUnit ['\\', 'u', a, b, c, d] n

/-- The ways to spell a character between quotes: as it stands, by a letter, by its code unit, or by the code units of a
pair of surrogates. -/
inductive SpellsChar : List Char → Char → Prop
  | plain {c : Char} (hcontrol : 0x20 ≤ c.toNat) (hquote : c ≠ '"') (hslash : c ≠ '\\') : SpellsChar [c] c
  | letter {e c : Char} (he : unescape? e = some c) : SpellsChar ['\\', e] c
  | unit {s : List Char} {n : Nat} (hs : SpellsUnit s n) (hn : n < 0xD800 ∨ 0xE000 ≤ n) : SpellsChar s (Char.ofNat n)
  | pair {s t : List Char} {high low : Nat} (hs : SpellsUnit s (0xD800 + high)) (ht : SpellsUnit t (0xDC00 + low))
    (hhigh : high < 0x400) (hlow : low < 0x400) : SpellsChar (s ++ t) (Char.ofNat (pairSum high low))

/-- The spelling of a text, with its quotes. -/
def SpellsText (s : List Char) (text : String) : Prop :=
  ∃ body, s = '"' :: (body ++ ['"']) ∧ SpellsAll SpellsChar body text.toList

/-- The ways to spell a piece: those of a character, but for the pairs. -/
inductive SpellsPiece : List Char → Piece → Prop
  | plain {c : Char} (hcontrol : 0x20 ≤ c.toNat) (hquote : c ≠ '"') (hslash : c ≠ '\\') : SpellsPiece [c] (.char c)
  | letter {e c : Char} (he : unescape? e = some c) : SpellsPiece ['\\', e] (.char c)
  | unit {s : List Char} {n : Nat} (hs : SpellsUnit s n) : SpellsPiece s (.ofUnit n)

theorem readPieces_of_spellsPiece {s rest tail : List Char} {p : Piece} {pieces : List Piece} (h : SpellsPiece s p)
    (hrest : readPieces rest = some (pieces, tail)) : readPieces (s ++ rest) = some (p :: pieces, tail) := by
  cases h with
  | plain hcontrol hquote hslash =>
    rw [List.singleton_append, readPieces]
    · simp [hcontrol, hslash, hrest]
    all_goals simp_all
  | @letter e c he =>
    have hunit : e ≠ 'u' := by
      rintro rfl
      cases he
    show readPieces ('\\' :: e :: rest) = _
    rw [readPieces]
    · simp only [he, hrest]
    all_goals simp_all
  | unit hs =>
    obtain ⟨hvalue⟩ := hs
    show readPieces ('\\' :: 'u' :: _ :: _ :: _ :: _ :: rest) = _
    simp only [readPieces, hvalue, hrest]

theorem readPieces_eq_some_iff {s rest : List Char} {pieces : List Piece} :
    readPieces s = some (pieces, rest) ↔ ∃ body, s = body ++ '"' :: rest ∧ SpellsAll SpellsPiece body pieces := by
  constructor
  · intro h
    fun_induction readPieces s generalizing pieces with
    | case1 | case4 | case6 | case7 => cases h
    | case2 =>
      cases h
      exact ⟨[], rfl, .nil⟩
    | case3 _ _ _ _ _ _ _ _ hread hvalue ih =>
      cases h
      obtain ⟨body, rfl, hbody⟩ := ih hread
      exact ⟨_, rfl, .cons (.unit (.digits hvalue)) hbody⟩
    | case5 _ _ _ _ _ _ hread he ih =>
      cases h
      obtain ⟨body, rfl, hbody⟩ := ih hread
      exact ⟨_, rfl, .cons (.letter he) hbody⟩
    | case8 c _ hquote _ _ hplain ih =>
      obtain ⟨⟨pieces, tail⟩, hread, heq⟩ := Option.map_eq_some_iff.mp h
      cases heq
      obtain ⟨body, rfl, hbody⟩ := ih hread
      obtain ⟨hcontrol, hslash⟩ := not_or.mp hplain
      exact ⟨_, rfl, .cons (.plain (Nat.not_lt.mp hcontrol) hquote hslash) hbody⟩
  · rintro ⟨body, rfl, h⟩
    induction h with
    | nil => rfl
    | cons hp _ ih =>
      rw [List.append_assoc]
      exact readPieces_of_spellsPiece hp ih

theorem ofUnit_high {high : Nat} (h : high < 0x400) : Piece.ofUnit (0xD800 + high) = .high high := by
  rw [Piece.ofUnit, if_pos (by omega), Nat.add_sub_cancel_left]

theorem ofUnit_low {low : Nat} (h : low < 0x400) : Piece.ofUnit (0xDC00 + low) = .low low := by
  rw [Piece.ofUnit, if_neg (by omega), if_pos (by omega), Nat.add_sub_cancel_left]

theorem ofUnit_char {n : Nat} (h : n < 0xD800 ∨ 0xE000 ≤ n) : Piece.ofUnit n = .char (Char.ofNat n) := by
  rw [Piece.ofUnit, if_neg (by omega), if_neg (by omega)]

/-- A piece is spelled as a character, as a high surrogate or as a low one. -/
theorem SpellsPiece.char_or_surrogate {s : List Char} {p : Piece} (h : SpellsPiece s p) :
    (∃ c, p = .char c ∧ SpellsChar s c) ∨ (∃ high < 0x400, p = .high high ∧ SpellsUnit s (0xD800 + high)) ∨
      ∃ low < 0x400, p = .low low ∧ SpellsUnit s (0xDC00 + low) := by
  cases h with
  | plain hcontrol hquote hslash => exact .inl ⟨_, rfl, .plain hcontrol hquote hslash⟩
  | letter he => exact .inl ⟨_, rfl, .letter he⟩
  | @unit _ n hs =>
    by_cases hhigh : 0xD800 ≤ n ∧ n < 0xDC00
    · obtain ⟨high, rfl⟩ := Nat.exists_eq_add_of_le hhigh.1
      have hbound : high < 0x400 := by omega
      exact .inr (.inl ⟨high, hbound, ofUnit_high hbound, hs⟩)
    · by_cases hlow : 0xDC00 ≤ n ∧ n < 0xE000
      · obtain ⟨low, rfl⟩ := Nat.exists_eq_add_of_le hlow.1
        have hbound : low < 0x400 := by omega
        exact .inr (.inr ⟨low, hbound, ofUnit_low hbound, hs⟩)
      · have hn : n < 0xD800 ∨ 0xE000 ≤ n := by omega
        exact .inl ⟨_, ofUnit_char hn, .unit hs hn⟩

/-- Characters are spelled by pieces that join to them. -/
theorem spellsAll_char_iff {body chars : List Char} :
    SpellsAll SpellsChar body chars ↔
      ∃ pieces, SpellsAll SpellsPiece body pieces ∧ joinPieces pairSum pieces = some chars := by
  constructor
  · intro h
    induction h with
    | nil => exact ⟨[], .nil, rfl⟩
    | cons hc _ ih =>
      obtain ⟨pieces, hpieces, hjoin⟩ := ih
      cases hc with
      | plain hcontrol hquote hslash =>
        exact ⟨_, .cons (.plain hcontrol hquote hslash) hpieces, by rw [joinPieces, hjoin, Option.map_some]⟩
      | letter he => exact ⟨_, .cons (.letter he) hpieces, by rw [joinPieces, hjoin, Option.map_some]⟩
      | unit hs hn =>
        have hpiece := SpellsPiece.unit hs
        rw [ofUnit_char hn] at hpiece
        exact ⟨_, .cons hpiece hpieces, by rw [joinPieces, hjoin, Option.map_some]⟩
      | pair hs ht hhigh hlow =>
        have hfirst := SpellsPiece.unit hs
        have hsecond := SpellsPiece.unit ht
        rw [ofUnit_high hhigh] at hfirst
        rw [ofUnit_low hlow] at hsecond
        rw [List.append_assoc]
        exact ⟨_, .cons hfirst (.cons hsecond hpieces), by rw [joinPieces, hjoin, Option.map_some]⟩
  · rintro ⟨pieces, hpieces, hjoin⟩
    fun_induction joinPieces pairSum pieces generalizing body chars with
    | case1 =>
      cases hjoin
      cases hpieces
      exact .nil
    | case2 c rest ih =>
      obtain ⟨tail, htail, rfl⟩ := Option.map_eq_some_iff.mp hjoin
      cases hpieces with
      | cons hpiece hrest =>
        obtain ⟨c', heq, hc⟩ | ⟨_, _, heq, _⟩ | ⟨_, _, heq, _⟩ := hpiece.char_or_surrogate <;> cases heq
        exact .cons hc (ih hrest htail)
    | case3 high low rest ih =>
      obtain ⟨tail, htail, rfl⟩ := Option.map_eq_some_iff.mp hjoin
      cases hpieces with
      | cons hfirst hrest =>
        cases hrest with
        | cons hsecond hrest =>
          obtain ⟨_, heq, _⟩ | ⟨_, hhigh, heq, hs⟩ | ⟨_, _, heq, _⟩ := hfirst.char_or_surrogate <;> cases heq
          obtain ⟨_, heq, _⟩ | ⟨_, _, heq, _⟩ | ⟨_, hlow, heq, ht⟩ := hsecond.char_or_surrogate <;> cases heq
          rw [← List.append_assoc]
          exact .cons (.pair hs ht hhigh hlow) (ih hrest htail)
    | case4 => cases hjoin

/-- What is read after a quote is the rest of the spelling of a text. -/
theorem readText_eq_some_iff {s rest : List Char} {text : String} :
    readText s = some (text, rest) ↔ ∃ t, '"' :: s = t ++ rest ∧ SpellsText t text := by
  constructor
  · intro h
    unfold readText at h
    split at h
    · cases h
    · rename_i pieces tail hread
      obtain ⟨body, rfl, hpieces⟩ := readPieces_eq_some_iff.mp hread
      obtain ⟨chars, hjoin, heq⟩ := Option.map_eq_some_iff.mp h
      cases heq
      refine ⟨'"' :: (body ++ ['"']), by simp, body, rfl, ?_⟩
      rw [String.toList_ofList]
      exact spellsAll_char_iff.mpr ⟨pieces, hpieces, hjoin⟩
  · rintro ⟨t, hs, body, rfl, hbody⟩
    obtain ⟨pieces, hpieces, hjoin⟩ := spellsAll_char_iff.mp hbody
    have hread : readPieces s = some (pieces, rest) := by
      refine readPieces_eq_some_iff.mpr ⟨body, ?_, hpieces⟩
      simpa using hs
    rw [readText, hread]
    simp only [hjoin, Option.map_some, String.ofList_toList]

theorem SpellsText.exists_eq_cons {s : List Char} {text : String} (h : SpellsText s text) : ∃ t, s = '"' :: t := by
  obtain ⟨body, rfl, -⟩ := h
  exact ⟨_, rfl⟩

theorem SpellsText.readText_append {t : List Char} {text : String} (h : SpellsText ('"' :: t) text) (rest : List Char) :
    readText (t ++ rest) = some (text, rest) :=
  readText_eq_some_iff.mpr ⟨_, rfl, h⟩

/-! ### The printed form of a text -/

theorem spellsChar_escape (c : Char) : SpellsChar (escape c) c := by
  by_cases hescaped : c = '"' ∨ c = '\\' ∨ c = '\x08' ∨ c = '\t' ∨ c = '\n' ∨ c = '\x0c' ∨ c = '\r'
  · rcases hescaped with rfl | rfl | rfl | rfl | rfl | rfl | rfl <;> exact .letter rfl
  · simp only [not_or] at hescaped
    obtain ⟨hquote, hslash, hb, ht, hn, hf, hr⟩ := hescaped
    rw [escape, if_neg hquote, if_neg hslash, if_neg hb, if_neg ht, if_neg hn, if_neg hf, if_neg hr]
    split
    · rename_i hcontrol
      have hunit := SpellsChar.unit (.digits (hexValue?_control ⟨c.toNat, hcontrol⟩)) (.inl (by omega))
      rwa [Char.ofNat_toNat] at hunit
    · rename_i hcontrol
      exact .plain (Nat.not_lt.mp hcontrol) hquote hslash

/-- The printer writes a spelling of the text. -/
theorem spellsText_quote (text : String) : SpellsText (quote text) text := by
  refine ⟨text.toList.flatMap escape, rfl, ?_⟩
  induction text.toList with
  | nil => exact .nil
  | cons c chars ih => exact .cons (spellsChar_escape c) ih

/-! ### Integers -/

/-- A number cannot go on with the text: it starts with no digit, point or exponent. -/
def EndsNumber (rest : List Char) : Prop := rest.head?.any Char.isDigit = false ∧ continuesNumber rest = false

theorem endsNumber_dropWhile {s : List Char} (h : continuesNumber (s.dropWhile Char.isDigit) = false) :
    EndsNumber (s.dropWhile Char.isDigit) := by
  refine ⟨?_, h⟩
  have hhead := List.head?_dropWhile_not Char.isDigit s
  cases hrest : (s.dropWhile Char.isDigit).head? with
  | none => rfl
  | some c =>
    rw [hrest] at hhead
    simpa using hhead

/-- Blanks and what ends a number behind them. -/
theorem EndsNumber.blanks_append {b rest : List Char} (h : EndsNumber rest) (hb : Blanks b) : EndsNumber (b ++ rest) := by
  cases b with
  | nil => exact h
  | cons c b =>
    have hc := hb c List.mem_cons_self
    simp only [isSpace, Bool.or_eq_true, beq_iff_eq] at hc
    rcases hc with ((rfl | rfl) | rfl) | rfl <;> exact ⟨rfl, rfl⟩

theorem readNatural_eq_some_iff {s rest : List Char} {n : Nat} :
    readNatural s = some (n, rest) ↔ s = numeral n ++ rest ∧ EndsNumber rest := by
  constructor
  · intro h
    have hs : s.takeWhile Char.isDigit ++ s.dropWhile Char.isDigit = s := List.takeWhile_append_dropWhile
    have hall : ∀ c ∈ s.takeWhile Char.isDigit, c.isDigit = true :=
      fun c hc => List.all_eq_true.mp List.all_takeWhile c hc
    rw [readNatural, spanDigits] at h
    cases hdigits : s.takeWhile Char.isDigit with
    | nil =>
      rw [hdigits] at h
      cases h
    | cons c t =>
      rw [hdigits] at h hs hall
      obtain ⟨hc, ht⟩ := List.forall_mem_cons.mp hall
      split at h
      · cases h
      · cases h
      · rename_i hzero heq
        obtain ⟨rfl, rfl⟩ := Prod.mk.inj heq
        split at h
        · cases h
        · rename_i hcontinues
          cases h
          have hlone : c = '0' → t = [] := by
            rintro rfl
            cases t with
            | nil => rfl
            | cons d t => exact (hzero d t rfl).elim
          rw [numeral_numeralValue hc ht hlone]
          exact ⟨hs.symm, endsNumber_dropWhile (Bool.eq_false_iff.mpr hcontinues)⟩
  · rintro ⟨rfl, hdigit, hcontinues⟩
    rw [readNatural, spanDigits_numeral hdigit]
    split
    · rename_i heq
      exact absurd (Prod.mk.inj heq).1 Nat.toDigits_ne_nil
    · -- Only the numeral of zero starts with a zero, and it has one digit.
      rename_i c t tail heq
      obtain ⟨hdigits, -⟩ := Prod.mk.inj heq
      obtain rfl : n = 0 := Decidable.byContradiction fun hn => head?_numeral hn (by rw [hdigits]; rfl)
      cases hdigits
    · rename_i digits tail _ _ heq
      obtain ⟨rfl, rfl⟩ := Prod.mk.inj heq
      rw [hcontinues, numeralValue_numeral]
      rfl

/-- An integer has one spelling, and what follows it is no part of a number. -/
theorem readInteger_eq_some_iff {s rest : List Char} {n : Int} :
    readInteger s = some (n, rest) ↔ s = integerText n ++ rest ∧ EndsNumber rest := by
  constructor
  · intro h
    unfold readInteger at h
    split at h
    · split at h
      · rename_i hread
        cases h
        obtain ⟨rfl, hends⟩ := readNatural_eq_some_iff.mp hread
        exact ⟨rfl, hends⟩
      · cases h
    · obtain ⟨⟨k, tail⟩, hread, heq⟩ := Option.map_eq_some_iff.mp h
      cases heq
      exact readNatural_eq_some_iff.mp hread
  · rintro ⟨rfl, hends⟩
    cases n with
    | ofNat n =>
      have hread : readNatural (numeral n ++ rest) = some (n, rest) := readNatural_eq_some_iff.mpr ⟨rfl, hends⟩
      obtain ⟨d, t, ht, hd⟩ := exists_numeral_eq_cons n
      rw [ht, List.cons_append] at hread
      rw [integerText, ht, List.cons_append]
      unfold readInteger
      split
      · rename_i heq
        obtain ⟨rfl, -⟩ := List.cons.inj heq
        exact absurd hd (by decide)
      · rw [hread]
        rfl
    | negSucc n =>
      have hread : readNatural (numeral (n + 1) ++ rest) = some (n + 1, rest) :=
        readNatural_eq_some_iff.mpr ⟨rfl, hends⟩
      rw [integerText, List.cons_append, readInteger, hread]

end AttributeRules.Json
