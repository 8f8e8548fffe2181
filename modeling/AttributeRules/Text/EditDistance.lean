/-! The distance between two texts, counted in edits of single characters.

An edit inserts, deletes or replaces one character. The table of distances is built one row per character of
the first text, from its end: the row of `s` holds the distance from `s` to each suffix of the second text,
the longest suffix first. -/

namespace AttributeRules.Text

/-- The row of the empty text: a suffix is reached by inserting all of it. -/
def emptyRow : List Char → List Nat
  | [] => [0]
  | _ :: t => (t.length + 1) :: emptyRow t

/-- The row of `c :: s`, from the row of `s`: delete `c`, insert the first character of the suffix, or put one
in the place of the other, which is free where they are equal. -/
def nextRow (c : Char) : List Char → List Nat → List Nat
  | x :: t, d :: ds =>
    let row := nextRow c t ds
    min (d + 1) (min (row.headD 0 + 1) (ds.headD 0 + if c = x then 0 else 1)) :: row
  | _, ds => ds.map (· + 1)

/-- The distances from `s` to each suffix of `t`. -/
def distanceRow (s t : List Char) : List Nat := s.foldr (nextRow · t) (emptyRow t)

/-- The least number of edits that turn one text into the other. -/
def editDistance (s t : List Char) : Nat := (distanceRow s t).headD 0

@[simp] theorem length_emptyRow (t : List Char) : (emptyRow t).length = t.length + 1 := by
  induction t with
  | nil => rfl
  | cons x t ih => simp [emptyRow, ih]

@[simp] theorem length_nextRow (c : Char) (t : List Char) (ds : List Nat) : (nextRow c t ds).length = ds.length := by
  induction t generalizing ds with
  | nil => simp [nextRow]
  | cons x t ih => cases ds <;> simp [nextRow, ih]

@[simp] theorem length_distanceRow (s t : List Char) : (distanceRow s t).length = t.length + 1 := by
  induction s with
  | nil => simp [distanceRow]
  | cons c s ih => simpa [distanceRow] using ih

@[simp] theorem editDistance_nil_left (t : List Char) : editDistance [] t = t.length := by
  cases t <;> rfl

end AttributeRules.Text
