import Mathlib.Order.Bounds.Defs
import AttributeRules.Text.EditDistance

/-! Edits of a text, and the least number of them.

The table of distances gives the equations of a recursion on both texts (`editDistance_cons_cons`). From them come
as many edits as the distance says, and one edit changes the distance to any text by at most one, so no fewer edits
will do (`isLeast_editDistance`). -/

namespace AttributeRules.Text

/-- One edit: a character is inserted, deleted or replaced at some place. -/
inductive Edit : List Char → List Char → Prop
  | insert (c : Char) (s : List Char) : Edit s (c :: s)
  | delete (c : Char) (s : List Char) : Edit (c :: s) s
  | replace (c d : Char) (s : List Char) : Edit (c :: s) (d :: s)
  | behind (c : Char) {s t : List Char} : Edit s t → Edit (c :: s) (c :: t)

/-- So many edits, one after the other, turn one text into the other. -/
inductive Edits : Nat → List Char → List Char → Prop
  | none (s : List Char) : Edits 0 s s
  | more {n : Nat} {s u t : List Char} : Edit s u → Edits n u t → Edits (n + 1) s t

/-! ### The recursion that the table follows -/

section Table
variable (c x : Char) (s t : List Char)

theorem distanceRow_cons : distanceRow (c :: s) t = nextRow c t (distanceRow s t) := rfl

/-- The rows for a text and for its first suffix agree on the suffixes that both have. -/
theorem distanceRow_cons_right : distanceRow s (x :: t) = editDistance s (x :: t) :: distanceRow s t := by
  induction s with
  | nil => rfl
  | cons c s ih =>
    rw [editDistance, distanceRow_cons, distanceRow_cons, ih]
    rfl

@[simp] theorem editDistance_cons_nil : editDistance (c :: s) [] = editDistance s [] + 1 := by
  have hlength := length_distanceRow s []
  rw [editDistance, editDistance, distanceRow_cons]
  cases hs : distanceRow s [] with
  | nil => simp [hs] at hlength
  | cons d ds => rfl

theorem editDistance_cons_cons :
    editDistance (c :: s) (x :: t) =
      min (editDistance s (x :: t) + 1)
        (min (editDistance (c :: s) t + 1) (editDistance s t + if c = x then 0 else 1)) := by
  rw [editDistance, distanceRow_cons, distanceRow_cons_right, nextRow]
  rfl

end Table

/-! ### One edit -/

theorem editDistance_self (s : List Char) : editDistance s s = 0 := by
  induction s with
  | nil => rfl
  | cons c s ih => simp [editDistance_cons_cons, ih]

theorem editDistance_cons_left_le (c : Char) (s t : List Char) : editDistance (c :: s) t ≤ editDistance s t + 1 := by
  cases t with
  | nil => exact Nat.le_of_eq (editDistance_cons_nil c s)
  | cons x t =>
    rw [editDistance_cons_cons]
    exact Nat.min_le_left _ _

theorem editDistance_cons_right_le (x : Char) (s t : List Char) : editDistance s (x :: t) ≤ editDistance s t + 1 := by
  cases s with
  | nil => simp
  | cons c s =>
    rw [editDistance_cons_cons]
    omega

theorem editDistance_le_cons_left (c : Char) (s t : List Char) : editDistance s t ≤ editDistance (c :: s) t + 1 := by
  induction t with
  | nil =>
    rw [editDistance_cons_nil]
    omega
  | cons x t ih =>
    have hright := editDistance_cons_right_le x s t
    rw [editDistance_cons_cons]
    omega

theorem editDistance_replace_le (c d : Char) (s t : List Char) :
    editDistance (c :: s) t ≤ editDistance (d :: s) t + 1 := by
  induction t with
  | nil =>
    rw [editDistance_cons_nil, editDistance_cons_nil]
    omega
  | cons x t ih =>
    rw [editDistance_cons_cons, editDistance_cons_cons]
    split <;> omega

/-- One edit changes the distance to a text by at most one. -/
theorem Edit.editDistance_le {s u : List Char} (h : Edit s u) (t : List Char) :
    editDistance s t ≤ editDistance u t + 1 := by
  induction h generalizing t with
  | insert c s => exact editDistance_le_cons_left c s t
  | delete c s => exact editDistance_cons_left_le c s t
  | replace c d s => exact editDistance_replace_le c d s t
  | @behind c s u _ ih =>
    induction t with
    | nil =>
      have := ih []
      rw [editDistance_cons_nil, editDistance_cons_nil]
      omega
    | cons x t iht =>
      -- Each of the three ways on costs at most one more, as the first characters are the same on both sides.
      have h₁ := ih (x :: t)
      have h₂ := ih t
      rw [editDistance_cons_cons, editDistance_cons_cons]
      omega

/-! ### Many edits -/

theorem Edits.editDistance_le {n : Nat} {s t : List Char} (h : Edits n s t) : editDistance s t ≤ n := by
  induction h with
  | none s => exact Nat.le_of_eq (editDistance_self s)
  | more hedit _ ih => exact Nat.le_trans (hedit.editDistance_le _) (Nat.succ_le_succ ih)

theorem Edits.behind {n : Nat} {s t : List Char} (c : Char) (h : Edits n s t) : Edits n (c :: s) (c :: t) := by
  induction h with
  | none s => exact .none (c :: s)
  | more hedit _ ih => exact .more (hedit.behind c) ih

theorem Edits.min {m n : Nat} {s t : List Char} (hm : Edits m s t) (hn : Edits n s t) : Edits (min m n) s t := by
  rcases Nat.le_total m n with h | h
  · rwa [Nat.min_eq_left h]
  · rwa [Nat.min_eq_right h]

/-- The edits that the table counts: at each place, those of the least of three ways on. -/
theorem edits_editDistance : ∀ s t : List Char, Edits (editDistance s t) s t
  | [], [] => .none []
  | [], x :: t => by
    have h := edits_editDistance [] t
    rw [editDistance_nil_left] at h ⊢
    exact .more (.insert x []) (h.behind x)
  | c :: s, [] => by
    rw [editDistance_cons_nil]
    exact .more (.delete c s) (edits_editDistance s [])
  | c :: s, x :: t => by
    have hdelete : Edits (editDistance s (x :: t) + 1) (c :: s) (x :: t) :=
      .more (.delete c s) (edits_editDistance s (x :: t))
    have hinsert : Edits (editDistance (c :: s) t + 1) (c :: s) (x :: t) :=
      .more (.insert x (c :: s)) ((edits_editDistance (c :: s) t).behind x)
    have hreplace : Edits (editDistance s t + if c = x then 0 else 1) (c :: s) (x :: t) := by
      split
      · rename_i heq
        exact heq ▸ (edits_editDistance s t).behind c
      · exact .more (.replace c x s) ((edits_editDistance s t).behind x)
    rw [editDistance_cons_cons]
    exact hdelete.min (hinsert.min hreplace)

/-- The distance is the least number of edits that turn one text into the other. -/
theorem isLeast_editDistance (s t : List Char) : IsLeast {n | Edits n s t} (editDistance s t) :=
  ⟨edits_editDistance s t, fun _ h => Edits.editDistance_le h⟩

end AttributeRules.Text
