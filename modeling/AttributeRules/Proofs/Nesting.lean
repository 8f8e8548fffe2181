import AttributeRules.Proofs.Trim
import AttributeRules.Rule.Parser

/-! Parentheses and keywords in a text.

The balance of a text is what it adds to the number of open parentheses. A text is covered, with some
parentheses open in front of it, when none of its keywords stands where no parenthesis is open. The scan for
the leftmost keyword fails exactly on covered texts, and a split is one at a keyword with balance zero and a
covered text in front (`split?_eq_some_iff`); later proofs use these two and not the scan.

No end of a keyword starts a keyword, so a text in front of another that does not go on with such an end can be
scanned on its own (`connectiveFrom?_append`). -/

namespace AttributeRules
open Text

/-! ### Balance -/

/-- How many more parentheses the text opens than it closes. -/
def balance (s : List Char) : Int := (s.count '(' : Int) - s.count ')'

@[simp] theorem balance_nil : balance [] = 0 := rfl

@[simp] theorem balance_append (s t : List Char) : balance (s ++ t) = balance s + balance t := by
  simp only [balance, List.count_append]
  omega

theorem balance_cons (c : Char) (s : List Char) : balance (c :: s) = balance [c] + balance s :=
  balance_append [c] s

@[simp] theorem balance_open (s : List Char) : balance ('(' :: s) = 1 + balance s := balance_cons '(' s

@[simp] theorem balance_close (s : List Char) : balance (')' :: s) = -1 + balance s := balance_cons ')' s

@[simp] theorem balance_space (s : List Char) : balance (' ' :: s) = balance s := by
  rw [balance_cons, show balance [' '] = 0 from rfl, Int.zero_add]

theorem nestingAfter_eq (k : Int) (c : Char) : nestingAfter k c = k + balance [c] := by
  unfold nestingAfter
  by_cases ho : c = '('
  · subst ho
    rfl
  · by_cases hc : c = ')'
    · subst hc
      rfl
    · rw [if_neg ho, if_neg hc]
      simp [balance, ho, hc]

def NoParen (s : List Char) : Prop := ∀ c ∈ s, c ≠ '(' ∧ c ≠ ')'

instance (s : List Char) : Decidable (NoParen s) := List.decidableBAll (fun c => c ≠ '(' ∧ c ≠ ')') s

theorem noParen_nil : NoParen [] := by simp [NoParen]

theorem NoParen.append {s t : List Char} (hs : NoParen s) (ht : NoParen t) : NoParen (s ++ t) := by
  intro c hc
  rcases List.mem_append.mp hc with hc | hc
  · exact hs c hc
  · exact ht c hc

theorem NoParen.trim {s : List Char} (h : NoParen s) : NoParen (trim s) :=
  fun c hc => h c ((trim_isInfix s).subset hc)

theorem NoParen.balance_eq {s : List Char} (h : NoParen s) : balance s = 0 := by
  have ho : s.count '(' = 0 := List.count_eq_zero.mpr fun hm => (h _ hm).1 rfl
  have hc : s.count ')' = 0 := List.count_eq_zero.mpr fun hm => (h _ hm).2 rfl
  simp only [balance, ho, hc]
  rfl

theorem noParen_of_blanks {s : List Char} (h : AllBlank s) : NoParen s := by
  intro c hc
  have hb := h c hc
  exact ⟨by rintro rfl; exact absurd hb (by decide), by rintro rfl; exact absurd hb (by decide)⟩

theorem balance_of_blanks {s : List Char} (h : AllBlank s) : balance s = 0 := (noParen_of_blanks h).balance_eq

theorem length_keyword_pos (op : Connective) : 0 < op.keyword.toList.length := by
  cases op <;> decide

theorem noParen_keyword (op : Connective) : NoParen op.keyword.toList := by
  cases op <;> decide

@[simp] theorem balance_keyword (op : Connective) : balance op.keyword.toList = 0 := (noParen_keyword op).balance_eq

@[simp] theorem balance_trim (s : List Char) : balance (trim s) = balance s := by
  obtain ⟨a, b, ha, hb, -, hs⟩ := exists_eq_trim s
  have := congrArg balance hs
  rw [balance_append, balance_append, balance_of_blanks ha, balance_of_blanks hb] at this
  omega

/-! ### Wrapped texts -/

theorem isWrapped_iff {s : List Char} : isWrapped s = true ↔ ∃ m, s = '(' :: (m ++ [')']) := by
  constructor
  · intro h
    unfold isWrapped at h
    split at h
    · rename_i rest
      rw [beq_iff_eq, List.getLast?_eq_some_iff] at h
      obtain ⟨m, rfl⟩ := h
      exact ⟨m, rfl⟩
    · cases h
  · rintro ⟨m, rfl⟩
    simp [isWrapped]

@[simp] theorem isWrapped_wrap (m : List Char) : isWrapped ('(' :: (m ++ [')'])) = true := isWrapped_iff.mpr ⟨m, rfl⟩

@[simp] theorem unwrap_wrap (m : List Char) : unwrap ('(' :: (m ++ [')'])) = trim m := by
  rw [unwrap, if_pos (isWrapped_wrap m), List.tail_cons, List.dropLast_concat]

theorem unwrap_of_not_isWrapped {s : List Char} (h : isWrapped s = false) : unwrap s = s := by
  rw [unwrap, if_neg (by simp [h])]

theorem isWrapped_of_noParen {s : List Char} (h : NoParen s) : isWrapped s = false := by
  cases hw : isWrapped s
  · rfl
  · obtain ⟨m, rfl⟩ := isWrapped_iff.mp hw
    exact absurd rfl (h '(' List.mem_cons_self).1

theorem bare_wrap (m : List Char) : Bare ('(' :: (m ++ [')'])) := by
  constructor
  · intro c hc
    obtain rfl : '(' = c := by simpa using hc
    decide
  · intro c hc
    obtain rfl : ')' = c := by simpa [List.getLast?_cons] using hc
    decide

@[simp] theorem balance_unwrap (s : List Char) : balance (unwrap s) = balance s := by
  cases h : isWrapped s
  · rw [unwrap_of_not_isWrapped h]
  · obtain ⟨m, rfl⟩ := isWrapped_iff.mp h
    simp only [unwrap_wrap, balance_trim, balance_open, balance_append, balance_close, balance_nil]
    omega

theorem bare_unwrap {s : List Char} (hs : Bare s) : Bare (unwrap s) := by
  cases h : isWrapped s
  · rwa [unwrap_of_not_isWrapped h]
  · obtain ⟨m, rfl⟩ := isWrapped_iff.mp h
    rw [unwrap_wrap]
    exact bare_trim m

theorem length_unwrap_le (s : List Char) : (unwrap s).length ≤ s.length := by
  cases h : isWrapped s
  · exact Nat.le_of_eq (by rw [unwrap_of_not_isWrapped h])
  · obtain ⟨m, rfl⟩ := isWrapped_iff.mp h
    have := length_trim_le m
    simp only [unwrap_wrap, List.length_cons, List.length_append]
    omega

/-! ### Covered texts -/

/-- No keyword of the text stands where no parenthesis is open, with so many open in front of the text. -/
def Covered (nesting : Int) (s : List Char) : Prop :=
  ∀ (before : List Char) (op : Connective) (after : List Char),
    s = before ++ (op.keyword.toList ++ after) → nesting + balance before ≠ 0

/-- Does the text start with no later letter of a keyword? -/
def startsFresh : List Char → Bool
  | [] => true
  | c :: _ => c != 'N' && c != 'D' && c != 'R'

theorem ofStart?_eq_some_iff {s : List Char} {op : Connective} :
    Connective.ofStart? s = some op ↔ ∃ after, s = op.keyword.toList ++ after := by
  constructor
  · intro h
    unfold Connective.ofStart? at h
    split at h
    · cases h
      exact ⟨_, rfl⟩
    · cases h
      exact ⟨_, rfl⟩
    · cases h
  · rintro ⟨after, rfl⟩
    exact Connective.ofStart?_keyword op after

/-- A keyword does not go on past the end of a text when what follows starts fresh. -/
theorem ofStart?_append {s t : List Char} (hs : s ≠ []) (ht : startsFresh t = true) :
    Connective.ofStart? (s ++ t) = Connective.ofStart? s := by
  cases t with
  | nil => rw [List.append_nil]
  | cons d t =>
    simp only [startsFresh, Bool.and_eq_true, bne_iff_ne, ne_eq] at ht
    obtain ⟨⟨hN, hD⟩, hR⟩ := ht
    -- Keywords have at most three characters, so only a text of one or two could go on into what follows.
    match s, hs with
    | [c], _ =>
      have : Connective.ofStart? (c :: d :: t) = none := by
        unfold Connective.ofStart?
        split <;> simp_all
      rw [List.cons_append, List.nil_append, this]
      unfold Connective.ofStart?
      split <;> simp_all
    | [c, e], _ =>
      unfold Connective.ofStart?
      split <;> simp_all
    | c :: e :: f :: r, _ =>
      unfold Connective.ofStart?
      split
      · simp_all
      · simp_all
      · split <;> simp_all

theorem startsFresh_keyword (op : Connective) (after : List Char) :
    startsFresh (op.keyword.toList ++ after) = true := by
  cases op <;> rfl

theorem startsFresh_of_blank {c : Char} (hc : isBlank c = true) (s : List Char) : startsFresh (c :: s) = true := by
  simp only [startsFresh, Bool.and_eq_true, bne_iff_ne, ne_eq]
  refine ⟨⟨?_, ?_⟩, ?_⟩ <;> rintro rfl <;> exact absurd hc (by decide)

theorem covered_cons {k : Int} {c : Char} {s : List Char} :
    Covered k (c :: s) ↔ (k = 0 → Connective.ofStart? (c :: s) = none) ∧ Covered (k + balance [c]) s := by
  constructor
  · intro h
    refine ⟨fun hk => Option.eq_none_iff_forall_ne_some.mpr fun op hop => ?_, fun before op after hs => ?_⟩
    · obtain ⟨after, hs⟩ := ofStart?_eq_some_iff.mp hop
      exact h [] op after hs (by rw [hk]; rfl)
    · have := h (c :: before) op after (by rw [hs]; rfl)
      rw [balance_cons] at this
      omega
  · rintro ⟨hstart, hrest⟩ before op after hs
    cases before with
    | nil =>
      intro hk
      have := hstart (by simpa using hk)
      rw [ofStart?_eq_some_iff.mpr ⟨after, hs⟩] at this
      cases this
    | cons d before =>
      obtain ⟨rfl, htail⟩ := List.cons.inj hs
      have := hrest before op after htail
      rw [balance_cons]
      omega

/-- What follows a text is covered with the parentheses of the text counted in. -/
theorem Covered.of_append {k : Int} {s t : List Char} (h : Covered k (s ++ t)) : Covered (k + balance s) t := by
  intro before op after ht
  have := h (s ++ before) op after (by rw [ht, List.append_assoc])
  rw [balance_append] at this
  omega

theorem NoParen.covered {k : Int} {s : List Char} (hs : NoParen s) (hk : k ≠ 0) : Covered k s := by
  rintro before op after rfl
  have hbefore : NoParen before := fun c hc => hs c (List.mem_append_left _ hc)
  rw [hbefore.balance_eq, Int.add_zero]
  exact hk

theorem covered_of_blanks {k : Int} {b : List Char} (hb : AllBlank b) : Covered k b := by
  rintro before op after rfl
  have hletter : ∃ c ∈ op.keyword.toList, isBlank c = false := by
    cases op
    · exact ⟨'A', by decide, by decide⟩
    · exact ⟨'O', by decide, by decide⟩
  obtain ⟨c, hc, hblank⟩ := hletter
  have := hb c (List.mem_append_right _ (List.mem_append_left _ hc))
  rw [hblank] at this
  cases this

/-- A text in which no keyword occurs is covered, whatever is open in front of it. -/
theorem covered_of_noKeyword {k : Int} {s : List Char} (hand : ¬ "AND".toList <:+: s) (hor : ¬ "OR".toList <:+: s) :
    Covered k s := by
  rintro before op after hs
  have hin : op.keyword.toList <:+: s := ⟨before, after, by rw [hs, List.append_assoc]⟩
  cases op with
  | and => exact absurd hin hand
  | or => exact absurd hin hor

/-! ### The scan -/

theorem connectiveFrom?_cons (k : Int) (p : Nat) (c : Char) (s : List Char) :
    connectiveFrom? k p (c :: s) =
      (if k = 0 then (Connective.ofStart? (c :: s)).map (p, ·) else none).or
        (connectiveFrom? (k + balance [c]) (p + 1) s) := by
  rw [connectiveFrom?, nestingAfter_eq]
  by_cases hk : k = 0
  · rw [if_pos hk, if_pos hk]
    cases Connective.ofStart? (c :: s) <;> rfl
  · rw [if_neg hk, if_neg hk]
    rfl

theorem connectiveFrom?_eq_none_iff {k : Int} {p : Nat} {s : List Char} :
    connectiveFrom? k p s = none ↔ Covered k s := by
  induction s generalizing k p with
  | nil =>
    refine ⟨fun _ before op after hs => ?_, fun _ => rfl⟩
    have := congrArg List.length hs
    cases op <;> simp [Connective.keyword] at this
  | cons c s ih =>
    rw [connectiveFrom?_cons, Option.or_eq_none_iff, ih, covered_cons]
    by_cases hk : k = 0 <;> simp [hk]

instance (k : Int) (s : List Char) : Decidable (Covered k s) :=
  decidable_of_iff (connectiveFrom? k 0 s = none) connectiveFrom?_eq_none_iff

theorem connectiveFrom?_append (k : Int) (p : Nat) (s : List Char) {t : List Char} (ht : startsFresh t = true) :
    connectiveFrom? k p (s ++ t) =
      (connectiveFrom? k p s).or (connectiveFrom? (k + balance s) (p + s.length) t) := by
  induction s generalizing k p with
  | nil => simp [connectiveFrom?]
  | cons c s ih =>
    have hstart := ofStart?_append (s := c :: s) (List.cons_ne_nil c s) ht
    rw [List.cons_append] at hstart
    rw [List.cons_append, connectiveFrom?_cons, connectiveFrom?_cons, hstart, ih, Option.or_assoc, balance_cons c s,
      List.length_cons, Int.add_assoc, Nat.add_assoc, Nat.add_comm 1]

/-- A text in front of one that starts fresh is covered on its own, and so is what follows it. -/
theorem covered_append {k : Int} {s t : List Char} (ht : startsFresh t = true) :
    Covered k (s ++ t) ↔ Covered k s ∧ Covered (k + balance s) t := by
  rw [← connectiveFrom?_eq_none_iff (p := 0), connectiveFrom?_append k 0 s ht, Option.or_eq_none_iff,
    connectiveFrom?_eq_none_iff, connectiveFrom?_eq_none_iff]

theorem covered_wrap_iff {k : Int} {m : List Char} : Covered k ('(' :: (m ++ [')'])) ↔ Covered (k + 1) m := by
  have hclose : Covered (k + 1 + balance m) [')'] :=
    covered_cons.mpr ⟨fun _ => rfl, covered_of_blanks allBlank_nil⟩
  rw [covered_cons, show balance ['('] = 1 from rfl, covered_append (by rfl)]
  exact ⟨fun h => h.2.1, fun h => ⟨fun _ => rfl, h, hclose⟩⟩

theorem Covered.append_blanks {k : Int} {s b : List Char} (h : Covered k s) (hb : AllBlank b) : Covered k (s ++ b) := by
  cases b with
  | nil => rwa [List.append_nil]
  | cons c b => exact (covered_append (startsFresh_of_blank (hb c (by simp)) b)).mpr ⟨h, covered_of_blanks hb⟩

/-- The scan finds the keyword with a covered text in front and as many parentheses closed as opened. -/
theorem connectiveFrom?_eq_some_iff {k : Int} {p i : Nat} {s : List Char} {op : Connective} :
    connectiveFrom? k p s = some (i, op) ↔
      ∃ before after, s = before ++ (op.keyword.toList ++ after) ∧ i = p + before.length ∧
        k + balance before = 0 ∧ Covered k before := by
  constructor
  · intro h
    induction s generalizing k p with
    | nil => cases h
    | cons c s ih =>
      rw [connectiveFrom?_cons, Option.or_eq_some_iff] at h
      rcases h with h | ⟨hhead, h⟩
      · split at h
        · rename_i hk
          obtain ⟨op', hop, heq⟩ := Option.map_eq_some_iff.mp h
          obtain ⟨after, hs⟩ := ofStart?_eq_some_iff.mp hop
          cases heq
          exact ⟨[], after, hs, rfl, by rw [hk]; rfl, connectiveFrom?_eq_none_iff (p := 0).mp rfl⟩
        · cases h
      · obtain ⟨before, after, rfl, hi, hk, hcov⟩ := ih h
        refine ⟨c :: before, after, rfl, by rw [hi, List.length_cons]; omega, by rw [balance_cons]; omega, ?_⟩
        refine covered_cons.mpr ⟨fun h0 => ?_, hcov⟩
        -- A keyword at the first character would end before the one found, which starts fresh.
        have hfresh := ofStart?_append (s := c :: before) (List.cons_ne_nil c before) (startsFresh_keyword op after)
        rw [if_pos h0, Option.map_eq_none_iff, ← List.cons_append, hfresh] at hhead
        exact hhead
  · rintro ⟨before, after, rfl, rfl, hk, hcov⟩
    rw [connectiveFrom?_append k p before (startsFresh_keyword op after), connectiveFrom?_eq_none_iff.mpr hcov, hk,
      Option.none_or]
    cases op <;> rfl

/-! ### Splitting -/

theorem split?_eq_none_iff {s : List Char} : split? s = none ↔ Covered 0 s := by
  rw [← connectiveFrom?_eq_none_iff (p := 0), split?, leftmostConnective?]
  cases connectiveFrom? 0 0 s <;> simp

/-- A split is one at a keyword with a covered text of balance zero in front. -/
theorem split?_eq_some_iff {s : List Char} {x : Split} :
    split? s = some x ↔
      s = x.left ++ (x.op.keyword.toList ++ x.right) ∧ balance x.left = 0 ∧ Covered 0 x.left := by
  obtain ⟨left, op, right⟩ := x
  unfold split? leftmostConnective?
  constructor
  · intro h
    split at h
    · rename_i i op' hscan
      obtain ⟨before, after, rfl, hi, hk, hcov⟩ := connectiveFrom?_eq_some_iff.mp hscan
      rw [Nat.zero_add] at hi
      rw [Int.zero_add] at hk
      subst hi
      rw [List.take_left, ← List.drop_drop, List.drop_left] at h
      have hdrop : (op'.keyword.toList ++ after).drop op'.keyword.length = after := by
        cases op' <;> rfl
      rw [hdrop] at h
      cases h
      exact ⟨rfl, hk, hcov⟩
    · cases h
  · rintro ⟨rfl, hk, hcov⟩
    have hscan : connectiveFrom? 0 0 (left ++ (op.keyword.toList ++ right)) = some (left.length, op) :=
      connectiveFrom?_eq_some_iff.mpr ⟨left, right, rfl, by omega, by rw [hk]; rfl, hcov⟩
    have hdrop : (op.keyword.toList ++ right).drop op.keyword.length = right := by
      cases op <;> rfl
    simp only [hscan]
    rw [List.take_left, ← List.drop_drop, List.drop_left, hdrop]

/-- Trimming leaves the split where it is and drops blanks of its outer ends only. -/
theorem split?_trim {s : List Char} {x : Split} (h : split? s = some x) :
    ∃ y, split? (trim s) = some y ∧ y.op = x.op ∧ trim y.left = trim x.left ∧ trim y.right = trim x.right := by
  obtain ⟨left, op, right⟩ := x
  obtain ⟨rfl, hk, hcov⟩ := split?_eq_some_iff.mp h
  obtain ⟨a, left', ha, hfirst, rfl⟩ := exists_eq_trimStart left
  obtain ⟨right', b, hb, hlast, rfl⟩ := exists_eq_trimEnd right
  -- Where a side is all blank, the keyword itself ends the text, and its letters are not blank.
  have hm : Bare (left' ++ (op.keyword.toList ++ right')) := by
    constructor
    · intro c hc
      cases left' with
      | nil => cases op <;> (obtain rfl := Option.some.inj hc; decide)
      | cons d left' => exact hfirst c hc
    · intro c hc
      rw [List.getLast?_append, List.getLast?_append] at hc
      cases hr : right'.getLast? with
      | some d =>
        rw [hr] at hc
        exact hlast c (hr.trans hc)
      | none =>
        rw [hr] at hc
        cases op <;> (obtain rfl := Option.some.inj hc; decide)
  have htrim : trim ((a ++ left') ++ (op.keyword.toList ++ (right' ++ b))) = left' ++ (op.keyword.toList ++ right') := by
    have := trim_eq_of_bare ha hm hb
    simpa only [List.append_assoc] using this
  have hbal : balance left' = 0 := by
    rw [balance_append, balance_of_blanks ha] at hk
    omega
  refine ⟨⟨left', op, right'⟩, ?_, rfl, ?_, ?_⟩
  · rw [htrim]
    refine split?_eq_some_iff.mpr ⟨rfl, hbal, ?_⟩
    have := hcov.of_append
    rwa [balance_of_blanks ha] at this
  · exact (trim_blanks_append ha left').symm
  · exact (trim_append_of_blanks right' hb).symm

/-! ### Balanced texts -/

/-- The text closes all parentheses that it opens, and no start of it closes more than it opens. -/
structure Balanced (s : List Char) : Prop where
  starts : ∀ t, t <+: s → t.count ')' ≤ t.count '('
  whole : s.count '(' = s.count ')'

instance (s : List Char) : Decidable (Balanced s) :=
  decidable_of_iff
    ((∀ n, n ≤ s.length → (s.take n).count ')' ≤ (s.take n).count '(') ∧ s.count '(' = s.count ')')
    ⟨fun h => ⟨fun t ht => by
        have := h.1 t.length ht.length_le
        rwa [← List.prefix_iff_eq_take.mp ht] at this, h.2⟩,
      fun h => ⟨fun n _ => h.starts _ (List.take_prefix n s), h.whole⟩⟩

namespace Balanced
variable {s t : List Char}

theorem balance_eq (h : Balanced s) : balance s = 0 := by
  have := h.whole
  simp only [balance]
  omega

theorem balance_nonneg (h : Balanced s) (ht : t <+: s) : 0 ≤ balance t := by
  have := h.starts t ht
  simp only [balance]
  omega

theorem of_balance (hstarts : ∀ t, t <+: s → 0 ≤ balance t) (hwhole : balance s = 0) : Balanced s where
  starts t ht := by
    have := hstarts t ht
    simp only [balance] at this
    omega
  whole := by
    simp only [balance] at hwhole
    omega

theorem of_noParen (h : NoParen s) : Balanced s := by
  refine of_balance (fun t ht => ?_) h.balance_eq
  have hstart : NoParen t := fun c hc => h c (ht.subset hc)
  exact Int.le_of_eq hstart.balance_eq.symm

theorem of_blanks (h : AllBlank s) : Balanced s := of_noParen (noParen_of_blanks h)

theorem append (hs : Balanced s) (ht : Balanced t) : Balanced (s ++ t) := by
  refine of_balance (fun u hu => ?_) (by rw [balance_append, hs.balance_eq, ht.balance_eq]; rfl)
  obtain ⟨v, hv⟩ := hu
  rcases List.append_eq_append_iff.mp hv with ⟨a, ha, -⟩ | ⟨b, rfl, hb⟩
  · exact hs.balance_nonneg ⟨a, ha.symm⟩
  · rw [balance_append, hs.balance_eq, Int.zero_add]
    exact ht.balance_nonneg ⟨v, hb.symm⟩

theorem wrap (h : Balanced s) : Balanced ('(' :: (s ++ [')'])) := by
  refine of_balance (fun u hu => ?_) (by simp [h.balance_eq])
  rcases List.prefix_cons_iff.mp hu with rfl | ⟨v, rfl, hv⟩
  · exact Int.le_refl 0
  · rcases List.prefix_concat_iff.mp hv with rfl | hv'
    · simp [h.balance_eq]
    · have := h.balance_nonneg hv'
      rw [balance_open]
      omega

/-- Inside parentheses a balanced text never gets back to where none is open. -/
theorem covered (h : Balanced s) {k : Int} (hk : 0 < k) : Covered k s := by
  rintro before op after rfl
  have := h.balance_nonneg (List.prefix_append before _)
  omega

end Balanced

end AttributeRules
