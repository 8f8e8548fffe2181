/-! Blank characters, trimming and words.

A character is blank when it has the Unicode property White_Space. Trimming drops the blank ends of a
text; its words are its maximal runs of other characters. -/

namespace AttributeRules.Text

/-- The characters with the property White_Space: five control characters, the space, and the separators. -/
def isBlank (c : Char) : Bool :=
  let n := c.toNat
  (0x09 ≤ n && n ≤ 0x0D) || n == 0x20 || n == 0x85 || n == 0xA0 || n == 0x1680 ||
    (0x2000 ≤ n && n ≤ 0x200A) || n == 0x2028 || n == 0x2029 || n == 0x202F || n == 0x205F || n == 0x3000

def trimStart (s : List Char) : List Char := s.dropWhile isBlank

def trimEnd (s : List Char) : List Char :=
  if s.getLast?.any isBlank then (s.reverse.dropWhile isBlank).reverse else s

/-- Drops the blanks at both ends. -/
def trim (s : List Char) : List Char := trimStart (trimEnd s)

/-- Does the text start with a character that is not blank? -/
def startsWord : List Char → Bool
  | [] => false
  | c :: _ => !isBlank c

/-- Puts a character in front of the first word. -/
def growFirst (c : Char) : List (List Char) → List (List Char)
  | [] => [[c]]
  | w :: ws => (c :: w) :: ws

/-- The maximal runs of characters that are not blank, from left to right. -/
def words : List Char → List (List Char)
  | [] => []
  | c :: rest =>
    if isBlank c then words rest
    else if startsWord rest then growFirst c (words rest)
    else [c] :: words rest

/-! ### Small laws -/

/-- Where the last character is no blank, there is nothing to drop from the end. -/
theorem trimEnd_eq (s : List Char) : trimEnd s = (s.reverse.dropWhile isBlank).reverse := by
  unfold trimEnd
  split
  · rfl
  · rename_i h
    cases hs : s.reverse with
    | nil => simpa using hs
    | cons c rest =>
      have hlast : s.getLast? = some c := by
        rw [← List.head?_reverse, hs, List.head?_cons]
      have hc : isBlank c = false := by simpa [hlast] using h
      rw [List.dropWhile_cons_of_neg (by simp [hc]), ← hs, List.reverse_reverse]

@[simp] theorem trim_nil : trim [] = [] := rfl

@[simp] theorem words_nil : words [] = [] := rfl

end AttributeRules.Text
