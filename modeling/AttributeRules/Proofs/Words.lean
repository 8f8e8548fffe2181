import AttributeRules.Proofs.Trim

/-! The words of a text, told without the scan that finds them.

A text of some words is written as blanks, then a word that a blank or the end of the text follows, and so on. Every text
is written so in exactly one way, and the words that this gives are those that the scan finds (`words_eq_iff`). -/

namespace AttributeRules.Text

/-- A word: some characters, none of them blank. -/
structure IsWord (w : List Char) : Prop where
  ne_nil : w ≠ []
  noBlank : ∀ c ∈ w, isBlank c = false

/-- The text has these words, with blanks around them. -/
inductive Spaced : List (List Char) → List Char → Prop
  | blanks {b : List Char} : AllBlank b → Spaced [] b
  | word {b w s : List Char} {ws : List (List Char)} :
    AllBlank b → IsWord w → startsWord s = false → Spaced ws s → Spaced (w :: ws) (b ++ (w ++ s))

namespace IsWord

instance (w : List Char) : Decidable (IsWord w) :=
  have : Decidable (∀ c ∈ w, isBlank c = false) := List.decidableBAll (isBlank · = false) w
  decidable_of_iff (w ≠ [] ∧ ∀ c ∈ w, isBlank c = false) ⟨fun h => ⟨h.1, h.2⟩, fun h => ⟨h.ne_nil, h.noBlank⟩⟩

theorem bare {w : List Char} (h : IsWord w) : Bare w where
  first c hc := h.noBlank c (List.mem_of_mem_head? hc)
  last c hc := h.noBlank c (List.mem_of_mem_getLast? hc)

theorem tail {c d : Char} {w : List Char} (h : IsWord (c :: d :: w)) : IsWord (d :: w) :=
  ⟨List.cons_ne_nil d w, fun e he => h.noBlank e (List.mem_cons_of_mem c he)⟩

end IsWord

/-! ### What the scan finds -/

theorem words_blank_cons {c : Char} (hc : isBlank c = true) (s : List Char) : words (c :: s) = words s := by
  rw [words, if_pos hc]

theorem words_blanks_append {b : List Char} (hb : AllBlank b) (s : List Char) : words (b ++ s) = words s := by
  induction b with
  | nil => rfl
  | cons c b ih =>
    obtain ⟨hc, hb⟩ := List.forall_mem_cons.mp hb
    rw [List.cons_append, words_blank_cons hc, ih hb]

/-- A word is found whole where it ends. -/
theorem words_word_append {w s : List Char} (hw : IsWord w) (hs : startsWord s = false) :
    words (w ++ s) = w :: words s := by
  induction w with
  | nil => exact absurd rfl hw.ne_nil
  | cons c w ih =>
    have hc : isBlank c = false := hw.noBlank c List.mem_cons_self
    cases w with
    | nil =>
      rw [List.cons_append, List.nil_append, words, if_neg (by simp [hc]), if_neg (by simp [hs])]
    | cons d w =>
      have hd : startsWord (d :: w ++ s) = true := by
        simp [startsWord, hw.noBlank d (List.mem_cons_of_mem c List.mem_cons_self)]
      rw [List.cons_append, words, if_neg (by simp [hc]), if_pos hd, ih hw.tail, growFirst]

/-! ### How a text is spaced -/

namespace Spaced
variable {s : List Char} {ws : List (List Char)}

theorem words_eq (h : Spaced ws s) : words s = ws := by
  induction h with
  | blanks hb =>
    have := words_blanks_append hb []
    rwa [List.append_nil, words_nil] at this
  | word hb hw hends _ ih => rw [words_blanks_append hb, words_word_append hw hends, ih]

theorem blanks_append {b : List Char} (hb : AllBlank b) (h : Spaced ws s) : Spaced ws (b ++ s) := by
  cases h with
  | blanks hs => exact .blanks (hb.append hs)
  | word hb' hw hends hrest =>
    rw [← List.append_assoc]
    exact .word (hb.append hb') hw hends hrest

theorem isWord (h : Spaced ws s) : ∀ w ∈ ws, IsWord w := by
  induction h with
  | blanks => exact List.forall_mem_nil _
  | word _ hw _ _ ih => exact List.forall_mem_cons.mpr ⟨hw, ih⟩

theorem of_isWord {w : List Char} (hw : IsWord w) : Spaced [w] w := by
  have h := Spaced.word allBlank_nil hw (show startsWord [] = false from rfl) (.blanks allBlank_nil)
  rwa [List.nil_append, List.append_nil] at h

/-- A text with one word is that word, where it has no blanks at its ends. -/
theorem eq_of_bare {w : List Char} (h : Spaced [w] s) (hs : Bare s) : s = w := by
  cases h with
  | word hb hw _ hrest =>
    cases hrest with
    | blanks hrest => rw [← trim_of_bare hs, trim_eq_of_bare hb hw.bare hrest]

end Spaced

/-- A text that starts with no blank starts with a word, which goes on as long as there is none. -/
theorem exists_eq_word_append {s : List Char} (hne : s ≠ []) (hfirst : ∀ c ∈ s.head?, isBlank c = false) :
    ∃ w t, IsWord w ∧ startsWord t = false ∧ s = w ++ t := by
  refine ⟨s.takeWhile (!isBlank ·), s.dropWhile (!isBlank ·), ⟨?_, fun c hc => ?_⟩, ?_,
    List.takeWhile_append_dropWhile.symm⟩
  · obtain ⟨c, t, rfl⟩ := List.exists_cons_of_ne_nil hne
    simp [hfirst c rfl]
  · simpa using List.all_eq_true.mp List.all_takeWhile c hc
  · cases ht : s.dropWhile (!isBlank ·) with
    | nil => rfl
    | cons c t =>
      have := List.head?_dropWhile_not (!isBlank ·) s
      rw [ht] at this
      simpa [startsWord] using this

/-- Every text is spaced by the words that the scan finds in it. -/
theorem spaced_words (s : List Char) : Spaced (words s) s := by
  obtain ⟨b, m, hb, hfirst, hs⟩ := exists_eq_trimStart s
  rw [hs, words_blanks_append hb]
  refine Spaced.blanks_append hb ?_
  by_cases hm : m = []
  · subst hm
    exact .blanks allBlank_nil
  · obtain ⟨w, t, hw, hends, hmt⟩ := exists_eq_word_append hm hfirst
    have hshorter : t.length < s.length := by
      have hpos := List.length_pos_iff.mpr hw.ne_nil
      rw [hs, hmt, List.length_append, List.length_append]
      omega
    rw [hmt, words_word_append hw hends]
    exact .word allBlank_nil hw hends (spaced_words t)
termination_by s.length

theorem words_eq_iff {s : List Char} {ws : List (List Char)} : words s = ws ↔ Spaced ws s := by
  constructor
  · rintro rfl
    exact spaced_words s
  · exact Spaced.words_eq

end AttributeRules.Text
