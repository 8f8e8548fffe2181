import AttributeRules.Text.Blank

/-! Trimming by decomposition: every text is blanks, then a text with no blank at either end, then blanks
again, and trimming gives the middle part. All laws of trimming used elsewhere follow from this one. -/

namespace AttributeRules.Text

def AllBlank (s : List Char) : Prop := ∀ c ∈ s, isBlank c = true

/-- No blank stands at an end of the text. -/
structure Bare (s : List Char) : Prop where
  first : ∀ c ∈ s.head?, isBlank c = false
  last : ∀ c ∈ s.getLast?, isBlank c = false

instance (s : List Char) : Decidable (AllBlank s) := List.decidableBAll (isBlank · = true) s

theorem allBlank_nil : AllBlank [] := by simp [AllBlank]

theorem AllBlank.append {a b : List Char} (ha : AllBlank a) (hb : AllBlank b) : AllBlank (a ++ b) := by
  intro c hc
  rcases List.mem_append.mp hc with hc | hc
  · exact ha c hc
  · exact hb c hc

theorem AllBlank.reverse {a : List Char} (ha : AllBlank a) : AllBlank a.reverse :=
  fun c hc => ha c (List.mem_reverse.mp hc)

theorem dropWhile_blank_of_first {s : List Char} (h : ∀ c ∈ s.head?, isBlank c = false) : s.dropWhile isBlank = s := by
  cases s with
  | nil => rfl
  | cons c rest => exact List.dropWhile_cons_of_neg (by simp [h c rfl])

/-- Trimming a text of blanks, a bare text and blanks gives the bare text. -/
theorem trim_eq_of_bare {a m b : List Char} (ha : AllBlank a) (hm : Bare m) (hb : AllBlank b) :
    trim (a ++ (m ++ b)) = m := by
  have hback : (a ++ (m ++ b)).reverse.dropWhile isBlank = (m.reverse ++ a.reverse).dropWhile isBlank := by
    rw [List.reverse_append, List.reverse_append, List.append_assoc, List.dropWhile_append_of_pos hb.reverse]
  rw [trim, trimStart, trimEnd_eq, hback]
  -- An empty middle part has no ends that could stop the trimming.
  by_cases h : m = []
  · subst h
    rw [List.reverse_nil, List.nil_append]
    have hnil : a.reverse.dropWhile isBlank = [] := by
      rw [← List.append_nil a.reverse, List.dropWhile_append_of_pos ha.reverse, List.dropWhile_nil]
    rw [hnil]
    rfl
  · have hfirst : ∀ c ∈ (m.reverse ++ a.reverse).head?, isBlank c = false := by
      intro c hc
      rw [List.head?_append, List.head?_reverse, List.getLast?_eq_some_getLast h, Option.some_or] at hc
      exact hm.last c (List.getLast?_eq_some_getLast h ▸ hc)
    rw [dropWhile_blank_of_first hfirst, List.reverse_append, List.reverse_reverse, List.reverse_reverse,
      List.dropWhile_append_of_pos ha, dropWhile_blank_of_first hm.first]

theorem exists_eq_trimStart (s : List Char) :
    ∃ a m, AllBlank a ∧ (∀ c ∈ m.head?, isBlank c = false) ∧ s = a ++ m := by
  refine ⟨s.takeWhile isBlank, s.dropWhile isBlank, ?_, ?_, List.takeWhile_append_dropWhile.symm⟩
  · exact fun c hc => List.all_eq_true.mp List.all_takeWhile c hc
  · intro c hc
    have := List.head?_dropWhile_not isBlank s
    rw [hc] at this
    simpa using this

theorem exists_eq_trimEnd (s : List Char) :
    ∃ m b, AllBlank b ∧ (∀ c ∈ m.getLast?, isBlank c = false) ∧ s = m ++ b := by
  obtain ⟨a, m, ha, hm, hs⟩ := exists_eq_trimStart s.reverse
  refine ⟨m.reverse, a.reverse, ha.reverse, ?_, ?_⟩
  · rwa [List.getLast?_reverse]
  · rw [← List.reverse_append, ← hs, List.reverse_reverse]

theorem exists_eq_trim (s : List Char) :
    ∃ a b, AllBlank a ∧ AllBlank b ∧ Bare (trim s) ∧ s = a ++ (trim s ++ b) := by
  obtain ⟨m, b, hb, hlast, rfl⟩ := exists_eq_trimEnd s
  obtain ⟨a, m, ha, hfirst, rfl⟩ := exists_eq_trimStart m
  have hm : Bare m := by
    refine ⟨hfirst, fun c hc => hlast c ?_⟩
    rw [List.getLast?_append, Option.mem_def.mp hc]
    rfl
  rw [List.append_assoc, trim_eq_of_bare ha hm hb]
  exact ⟨a, b, ha, hb, hm, rfl⟩

/-- What trimming gives stands somewhere in the text. -/
theorem trim_isInfix (s : List Char) : trim s <:+: s := by
  obtain ⟨a, b, -, -, -, hs⟩ := exists_eq_trim s
  exact ⟨a, b, by rw [List.append_assoc, ← hs]⟩

theorem bare_trim (s : List Char) : Bare (trim s) := by
  obtain ⟨-, -, -, -, h, -⟩ := exists_eq_trim s
  exact h

theorem trim_of_bare {s : List Char} (h : Bare s) : trim s = s := by
  have := trim_eq_of_bare allBlank_nil h allBlank_nil
  rwa [List.nil_append, List.append_nil] at this

theorem trim_eq_self_iff {s : List Char} : trim s = s ↔ Bare s :=
  ⟨fun h => h ▸ bare_trim s, trim_of_bare⟩

/-- Blanks around a text do not change what trimming gives. -/
theorem trim_append_blanks {a b : List Char} (ha : AllBlank a) (s : List Char) (hb : AllBlank b) :
    trim (a ++ (s ++ b)) = trim s := by
  obtain ⟨a', b', ha', hb', hm, hs⟩ := exists_eq_trim s
  have : a ++ (s ++ b) = (a ++ a') ++ (trim s ++ (b' ++ b)) := by
    rw [hs]
    simp only [List.append_assoc, trim_eq_of_bare ha' hm hb']
  rw [this, trim_eq_of_bare (ha.append ha') hm (hb'.append hb)]

theorem trim_blanks_append {a : List Char} (ha : AllBlank a) (s : List Char) : trim (a ++ s) = trim s := by
  have := trim_append_blanks ha s allBlank_nil
  rwa [List.append_nil] at this

theorem trim_append_of_blanks (s : List Char) {b : List Char} (hb : AllBlank b) : trim (s ++ b) = trim s :=
  trim_append_blanks allBlank_nil s hb

theorem trim_ne_nil_iff {s : List Char} : trim s ≠ [] ↔ ∃ c ∈ s, isBlank c = false := by
  constructor
  · intro hne
    obtain ⟨c, rest, htrim⟩ := List.exists_cons_of_ne_nil hne
    have hbare := bare_trim s
    have hinfix := trim_isInfix s
    rw [htrim] at hbare hinfix
    exact ⟨c, hinfix.subset List.mem_cons_self, hbare.1 c rfl⟩
  · rintro ⟨c, hc, hword⟩ hnil
    obtain ⟨a, b, ha, hb, -, hs⟩ := exists_eq_trim s
    rw [hs, hnil, List.nil_append, List.mem_append] at hc
    rcases hc with hc | hc
    · rw [ha c hc] at hword
      cases hword
    · rw [hb c hc] at hword
      cases hword

theorem length_trim_le (s : List Char) : (trim s).length ≤ s.length := (trim_isInfix s).length_le

theorem Bare.append_around {s t : List Char} (hs : Bare s) (hsne : s ≠ []) (m : List Char) (ht : Bare t)
    (htne : t ≠ []) : Bare (s ++ (m ++ t)) where
  first c hc := by
    rw [List.head?_append, List.head?_eq_some_head hsne, Option.some_or] at hc
    exact hs.first c (List.head?_eq_some_head hsne ▸ hc)
  last c hc := by
    rw [List.getLast?_append, List.getLast?_append, List.getLast?_eq_some_getLast htne, Option.some_or,
      Option.some_or] at hc
    exact ht.last c (List.getLast?_eq_some_getLast htne ▸ hc)

end AttributeRules.Text
