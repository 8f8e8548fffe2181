import AttributeRules.Json.Printer

/-! Reading a printed value.

A reader takes values, items and members off the front, and a meaning says what it makes of a value or that it refuses
a text in it. If the reader takes each part of a value as a layout prints it, it takes each printed value
(`Reader.Reads.value_print`); so a syntax has to be compared with the printer part by part only. -/

namespace AttributeRules.Json
open Text

/-! ### Numerals -/

/-- Only the numeral of zero starts with a zero. -/
theorem head?_numeral {n : Nat} (hn : n ≠ 0) : (numeral n).head? ≠ some '0' := by
  induction n using Nat.strongRecOn with
  | ind n ih =>
    rw [numeral, Nat.toDigits_eq_if (by decide)]
    split
    · simp [hn]
    · have hquotient : n / 10 ≠ 0 := by omega
      rw [List.head?_append, List.head?_eq_some_head Nat.toDigits_ne_nil, Option.some_or,
        ← List.head?_eq_some_head Nat.toDigits_ne_nil]
      exact ih (n / 10) (by omega) hquotient

theorem spanDigits_numeral {n : Nat} {rest : List Char} (h : rest.head?.any Char.isDigit = false) :
    spanDigits (numeral n ++ rest) = (numeral n, rest) := by
  have hrest : rest.takeWhile Char.isDigit = [] ∧ rest.dropWhile Char.isDigit = rest := by
    match rest, h with
    | [], _ => exact ⟨rfl, rfl⟩
    | c :: rest, hc =>
      have hdigit : ¬c.isDigit = true := Bool.eq_false_iff.mp hc
      exact ⟨List.takeWhile_cons_of_neg hdigit, List.dropWhile_cons_of_neg hdigit⟩
  rw [spanDigits, List.takeWhile_append_of_pos fun c hc => isDigit_of_mem_numeral hc,
    List.dropWhile_append_of_pos fun c hc => isDigit_of_mem_numeral hc, hrest.1, hrest.2, List.append_nil]

theorem exists_numeral_eq_cons (n : Nat) : ∃ d t, numeral n = d :: t ∧ d.isDigit = true := by
  obtain ⟨d, t, h⟩ := List.exists_cons_of_ne_nil (l := numeral n) Nat.toDigits_ne_nil
  exact ⟨d, t, h, isDigit_of_mem_numeral (h ▸ List.mem_cons_self)⟩

theorem exists_integerText_eq_cons (n : Int) : ∃ c t, integerText n = c :: t ∧ (c.isDigit = true ∨ c = '-') := by
  cases n with
  | ofNat n =>
    obtain ⟨d, t, ht, hd⟩ := exists_numeral_eq_cons n
    exact ⟨d, t, ht, .inl hd⟩
  | negSucc n => exact ⟨'-', _, rfl, .inr rfl⟩

/-! ### Texts -/

theorem quote_append (s : String) (rest : List Char) :
    quote s ++ rest = '"' :: (s.toList.flatMap escape ++ '"' :: rest) := by
  rw [quote, List.cons_append, List.append_assoc, List.singleton_append]

theorem hexValue?_control :
    ∀ n : Fin 32, hexValue? 0 ['0', '0', hexDigit (n / 16), hexDigit (n % 16)] = some n.val := by
  decide

/-! ### The ends of a printed value -/

/-- What a printed value that does not start with a digit starts with: a sign, a word, a quote or an opening mark. -/
def firstMarks : List Char := ['-', 'n', 't', 'f', '"', '[', '{']

/-- The text starts as a printed value can start. -/
def StartsValue : List Char → Prop
  | [] => False
  | c :: _ => c.isDigit = true ∨ c ∈ firstMarks

instance : DecidablePred StartsValue
  | [] => .isFalse id
  | c :: _ => inferInstanceAs (Decidable (c.isDigit = true ∨ c ∈ firstMarks))

theorem startsValue_of_mem {c : Char} (h : c ∈ firstMarks) (rest : List Char) : StartsValue (c :: rest) := .inr h

section First
variable {c d : Char} {rest : List Char}

theorem StartsValue.ne (h : StartsValue (c :: rest)) (hd : ¬ StartsValue [d]) : c ≠ d := by
  rintro rfl
  exact hd h

/-- What holds of no digit and no first mark does not hold of the first character of a value. -/
theorem StartsValue.eq_false {p : Char → Bool} (h : StartsValue (c :: rest))
    (hdigit : ∀ c : Char, c.isDigit = true → p c = false) (hmarks : firstMarks.any p = false) : p c = false := by
  rcases h with hc | hc
  · exact hdigit c hc
  · exact Bool.eq_false_iff.mpr (List.any_eq_false.mp hmarks c hc)

end First

/-- What may stand behind a printed value: nothing, a comma, or a closing mark with its gap. -/
inductive Layout.Follows (l : Layout) : List Char → Prop
  | nothing : Follows l []
  | comma (rest : List Char) : Follows l (',' :: rest)
  | bracket (indent : Nat) (rest : List Char) : Follows l (l.gap indent ++ ']' :: rest)
  | brace (indent : Nat) (rest : List Char) : Follows l (l.gap indent ++ '}' :: rest)

section Starts
variable (l : Layout) (indent : Nat)

theorem startsValue_print (j : Json) (rest : List Char) : StartsValue (print l indent j ++ rest) := by
  match j with
  | .null => exact startsValue_of_mem (by decide) _
  | .bool true => exact startsValue_of_mem (by decide) _
  | .bool false => exact startsValue_of_mem (by decide) _
  | .integer n =>
    obtain ⟨c, t, ht, hc⟩ := exists_integerText_eq_cons n
    rw [print, ht]
    rcases hc with hc | rfl
    · exact .inl hc
    · exact startsValue_of_mem (by decide) _
  | .text s => exact startsValue_of_mem (by decide) _
  | .array [] => exact startsValue_of_mem (by decide) _
  | .array (_ :: _) => exact startsValue_of_mem (by decide) _
  | .object [] => exact startsValue_of_mem (by decide) _
  | .object (_ :: _) => exact startsValue_of_mem (by decide) _

theorem startsValue_printItems (item : Json) (items : List Json) (rest : List Char) :
    StartsValue (printItems l indent (item :: items) ++ rest) := by
  cases items with
  | nil => exact startsValue_print l indent item rest
  | cons next items =>
    rw [printItems, List.append_assoc]
    · exact startsValue_print l indent item _
    · exact List.cons_ne_nil _ _

theorem startsValue_printMembers (member : String × Json) (members : List (String × Json)) (rest : List Char) :
    StartsValue (printMembers l indent (member :: members) ++ rest) := by
  cases members <;> exact startsValue_of_mem (by decide) _

end Starts

/-! ### Meanings -/

/-- What a value is to a reader, which may refuse texts and names. -/
structure Meaning (V N : Type) where
  null : V
  bool : Bool → V
  integer : Int → V
  text : String → Option V
  name : String → Option N
  array : List V → V
  object : List (N × V) → V

namespace Meaning
variable {V N : Type}

mutual

/-- The value as a whole; it is refused with each text or name in it. -/
def value (m : Meaning V N) : Json → Option V
  | .null => some m.null
  | .bool b => some (m.bool b)
  | .integer n => some (m.integer n)
  | .text s => m.text s
  | .array items => (m.items items).map m.array
  | .object members => (m.members members).map m.object

def items (m : Meaning V N) : List Json → Option (List V)
  | [] => some []
  | item :: rest => (m.value item).bind fun v => (m.items rest).map (v :: ·)

def members (m : Meaning V N) : List (String × Json) → Option (List (N × V))
  | [] => some []
  | (name, value) :: rest =>
    (m.name name).bind fun n => (m.value value).bind fun v => (m.members rest).map ((n, v) :: ·)

end

theorem items_cons (m : Meaning V N) (item : Json) (rest : List Json) :
    m.items (item :: rest) = (m.value item).bind fun v => (m.items rest).map (v :: ·) := by
  rw [items]

theorem members_cons (m : Meaning V N) (name : String) (value : Json) (rest : List (String × Json)) :
    m.members ((name, value) :: rest) =
      (m.name name).bind fun n => (m.value value).bind fun v => (m.members rest).map ((n, v) :: ·) := by
  rw [members]

end Meaning

/-! ### Readers -/

/-- Reads values, items and members off the front; the number bounds the nesting of calls. -/
structure Reader (V N : Type) where
  value : Nat → List Char → Option (V × List Char)
  items : Nat → List Char → Option (List V × List Char)
  members : Nat → List Char → Option (List (N × V) × List Char)

namespace Reader
variable {V N : Type}

/-- The reader takes each part of a value as the layout prints it. A part with others in it is taken if they are, and
refused if they are refused. -/
structure Reads (r : Reader V N) (l : Layout) (m : Meaning V N) : Prop where
  null (bound : Nat) (rest : List Char) : r.value (bound + 1) ("null".toList ++ rest) = some (m.null, rest)
  bool (bound : Nat) (b : Bool) (rest : List Char) :
    r.value (bound + 1) (print l 0 (.bool b) ++ rest) = some (m.bool b, rest)
  integer (bound : Nat) (n : Int) {rest : List Char} (hrest : l.Follows rest) :
    r.value (bound + 1) (integerText n ++ rest) = some (m.integer n, rest)
  text (bound : Nat) (s : String) (rest : List Char) :
    r.value (bound + 1) (quote s ++ rest) = (m.text s).map (·, rest)
  noItems (bound : Nat) (rest : List Char) : r.value (bound + 2) ('[' :: ']' :: rest) = some (m.array [], rest)
  noMembers (bound : Nat) (rest : List Char) : r.value (bound + 2) ('{' :: '}' :: rest) = some (m.object [], rest)
  array (bound indent : Nat) {s : List Char} (hs : StartsValue s) :
    r.value (bound + 1) ('[' :: (l.gap indent ++ s)) = (r.items bound s).map (Prod.map m.array id)
  object (bound indent : Nat) {s : List Char} (hs : StartsValue s) :
    r.value (bound + 1) ('{' :: (l.gap indent ++ s)) = (r.members bound s).map (Prod.map m.object id)
  lastItem {bound indent : Nat} {s rest : List Char} {v : Option V} (hs : StartsValue s)
    (hv : r.value bound s = v.map (·, l.gap indent ++ ']' :: rest)) : r.items (bound + 1) s = v.map ([·], rest)
  nextItem {bound indent : Nat} {s t : List Char} {v : Option V} (hs : StartsValue s) (ht : StartsValue t)
    (hv : r.value bound s = v.map (·, ',' :: (l.gap indent ++ t))) :
    r.items (bound + 1) s = v.bind fun v => (r.items bound t).map (Prod.map (v :: ·) id)
  lastMember {bound indent : Nat} (name : String) {s rest : List Char} {v : Option V} (hs : StartsValue s)
    (hv : r.value bound s = v.map (·, l.gap indent ++ '}' :: rest)) :
    r.members (bound + 1) (quote name ++ ':' :: (l.space ++ s)) =
      (m.name name).bind fun n => v.map fun v => ([(n, v)], rest)
  nextMember {bound indent : Nat} (name : String) {s t : List Char} {v : Option V} (hs : StartsValue s)
    (ht : StartsValue t) (hv : r.value bound s = v.map (·, ',' :: (l.gap indent ++ t))) :
    r.members (bound + 1) (quote name ++ ':' :: (l.space ++ s)) =
      (m.name name).bind fun n => v.bind fun v => (r.members bound t).map (Prod.map ((n, v) :: ·) id)

namespace Reads
variable {r : Reader V N} {l : Layout} {m : Meaning V N}

-- The bound on nested calls is at least the length of what is read, and each call takes a character off.
mutual

theorem value_print (h : r.Reads l m) : (j : Json) → ∀ {indent bound : Nat} {rest : List Char},
    (print l indent j).length ≤ bound → l.Follows rest →
      r.value bound (print l indent j ++ rest) = (m.value j).map (·, rest)
  | .null, _, b + 1, rest, _, _ => h.null b rest
  | .bool true, _, b + 1, rest, _, _ => h.bool b true rest
  | .bool false, _, b + 1, rest, _, _ => h.bool b false rest
  | .integer n, _, bound, rest, hb, hrest => by
    obtain ⟨c, t, ht, -⟩ := exists_integerText_eq_cons n
    rw [print, ht, List.length_cons] at hb
    obtain ⟨b, rfl⟩ := Nat.exists_eq_add_one.mpr (show 0 < bound by omega)
    exact h.integer b n hrest
  | .text s, _, bound, rest, hb, _ => by
    rw [print, quote, List.length_cons] at hb
    obtain ⟨b, rfl⟩ := Nat.exists_eq_add_one.mpr (show 0 < bound by omega)
    exact h.text b s rest
  | .array [], _, b + 2, rest, _, _ => h.noItems b rest
  | .object [], _, b + 2, rest, _, _ => h.noMembers b rest
  | .array (item :: items), indent, bound, rest, hb, _ => by
    simp only [print, List.length_cons, List.length_append] at hb
    obtain ⟨b, rfl⟩ := Nat.exists_eq_add_one.mpr (show 0 < bound by omega)
    simp only [print, List.cons_append, List.append_assoc, List.nil_append]
    rw [h.array b (indent + 2) (startsValue_printItems l _ item items _),
      h.items_print (item :: items) (List.cons_ne_nil _ _) (by omega), Meaning.value, Option.map_map, Option.map_map]
    rfl
  | .object (member :: members), indent, bound, rest, hb, _ => by
    simp only [print, List.length_cons, List.length_append] at hb
    obtain ⟨b, rfl⟩ := Nat.exists_eq_add_one.mpr (show 0 < bound by omega)
    simp only [print, List.cons_append, List.append_assoc, List.nil_append]
    rw [h.object b (indent + 2) (startsValue_printMembers l _ member members _),
      h.members_print (member :: members) (List.cons_ne_nil _ _) (by omega), Meaning.value, Option.map_map,
      Option.map_map]
    rfl

theorem items_print (h : r.Reads l m) : (items : List Json) → items ≠ [] →
    ∀ {indent outer bound : Nat} {rest : List Char}, (printItems l indent items).length < bound →
      r.items bound (printItems l indent items ++ (l.gap outer ++ ']' :: rest)) = (m.items items).map (·, rest)
  | [item], _, indent, outer, b + 1, rest, hb => by
    rw [printItems] at hb ⊢
    rw [h.lastItem (startsValue_print l indent item _)
      (h.value_print item (by omega) (.bracket outer rest)), m.items_cons, Meaning.items]
    cases m.value item <;> rfl
  | item :: next :: items, _, indent, outer, b + 1, rest, hb => by
    have hprint : printItems l indent (item :: next :: items) =
        print l indent item ++ ',' :: (l.gap indent ++ printItems l indent (next :: items)) := rfl
    simp only [hprint, List.length_append, List.length_cons] at hb
    rw [hprint, List.append_assoc, List.cons_append, List.append_assoc,
      h.nextItem (startsValue_print l indent item _) (startsValue_printItems l indent next items _)
        (h.value_print item (by omega) (.comma _)),
      h.items_print (next :: items) (List.cons_ne_nil _ _) (by omega), m.items_cons item]
    cases m.value item with
    | none => rfl
    | some v => cases m.items (next :: items) <;> rfl

theorem members_print (h : r.Reads l m) : (members : List (String × Json)) → members ≠ [] →
    ∀ {indent outer bound : Nat} {rest : List Char}, (printMembers l indent members).length < bound →
      r.members bound (printMembers l indent members ++ (l.gap outer ++ '}' :: rest)) =
        (m.members members).map (·, rest)
  | [(name, value)], _, indent, outer, b + 1, rest, hb => by
    simp only [printMembers, List.length_append, List.length_cons] at hb
    simp only [printMembers, List.append_assoc, List.cons_append]
    rw [h.lastMember name (startsValue_print l indent value _)
      (h.value_print value (by omega) (.brace outer rest)), m.members_cons, Meaning.members]
    cases m.name name with
    | none => rfl
    | some n => cases m.value value <;> rfl
  | (name, value) :: next :: members, _, indent, outer, b + 1, rest, hb => by
    have hprint : printMembers l indent ((name, value) :: next :: members) = quote name ++
        ':' :: (l.space ++ print l indent value ++ ',' :: (l.gap indent ++ printMembers l indent (next :: members))) :=
      rfl
    simp only [hprint, List.length_append, List.length_cons] at hb
    simp only [hprint, List.append_assoc, List.cons_append]
    rw [h.nextMember name (startsValue_print l indent value _) (startsValue_printMembers l indent next members _)
        (h.value_print value (by omega) (.comma _)),
      h.members_print (next :: members) (List.cons_ne_nil _ _) (by omega), m.members_cons name value]
    cases m.name name with
    | none => rfl
    | some n =>
      cases m.value value with
      | none => rfl
      | some v => cases m.members (next :: members) <;> rfl

end

end Reads
end Reader

end AttributeRules.Json
