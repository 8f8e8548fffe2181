import AttributeRules.Command.Output
import AttributeRules.Proofs.Spelling

/-! One JSON value on one line.

A strict reader takes one value and nothing after it: no comma may follow the last item, names stand in quotes, and an
integer has no needless sign or zero. The compact form of each value is read back as that value
(`ofText?_toText`), and no control character stands in it, so it is one line (`isLineOf_toLine`). -/

namespace AttributeRules.Json
open Text

/-! ### A strict reader -/

/-- Reads one of the three words that are values. -/
def readWord : List Char → Option (Json × List Char)
  | 'n' :: 'u' :: 'l' :: 'l' :: rest => some (.null, rest)
  | 't' :: 'r' :: 'u' :: 'e' :: rest => some (.bool true, rest)
  | 'f' :: 'a' :: 'l' :: 's' :: 'e' :: rest => some (.bool false, rest)
  | _ => none

mutual

/-- Reads a value off the front. The number bounds the nesting of calls; each call takes at least one
character. -/
def readValue : Nat → List Char → Option (Json × List Char)
  | 0, _ => none
  | bound + 1, s =>
    match s with
    | '[' :: rest =>
      match skipSpace rest with
      | ']' :: tail => some (.array [], tail)
      | first => (readItems bound first).map fun (items, tail) => (.array items, tail)
    | '{' :: rest =>
      match skipSpace rest with
      | '}' :: tail => some (.object [], tail)
      | first => (readMembers bound first).map fun (members, tail) => (.object members, tail)
    | '"' :: rest => (readText rest).map fun (content, tail) => (.text content, tail)
    | s =>
      match readWord s with
      | some r => some r
      | none => (readInteger s).map fun (n, tail) => (.integer n, tail)

/-- Reads items up to the closing bracket; there is at least one. -/
def readItems : Nat → List Char → Option (List Json × List Char)
  | 0, _ => none
  | bound + 1, s =>
    match readValue bound s with
    | none => none
    | some (item, rest) =>
      match skipSpace rest with
      | ',' :: rest => (readItems bound (skipSpace rest)).map fun (items, tail) => (item :: items, tail)
      | ']' :: tail => some ([item], tail)
      | _ => none

/-- Reads members up to the closing brace; there is at least one. -/
def readMembers : Nat → List Char → Option (List (String × Json) × List Char)
  | 0, _ => none
  | bound + 1, s =>
    match s with
    | '"' :: rest =>
      match readText rest with
      | none => none
      | some (name, rest) =>
        match skipSpace rest with
        | ':' :: rest =>
          match readValue bound (skipSpace rest) with
          | none => none
          | some (value, rest) =>
            match skipSpace rest with
            | ',' :: rest =>
              (readMembers bound (skipSpace rest)).map fun (members, tail) => ((name, value) :: members, tail)
            | '}' :: tail => some ([(name, value)], tail)
            | _ => none
        | _ => none
    | _ => none

end

/-- Reads a text that is one value between blanks. -/
def ofText? (s : String) : Option Json :=
  match readValue (s.length + 1) (skipSpace s.toList) with
  | some (value, rest) => if (skipSpace rest).isEmpty then some value else none
  | none => none

/-! ### Texts and integers -/

theorem readText_quoted (s : String) (rest : List Char) :
    readText (s.toList.flatMap escape ++ '"' :: rest) = some (s, rest) :=
  readText_eq_some_iff.mpr ⟨quote s, (quote_append s rest).symm, spellsText_quote s⟩

theorem endsNumber_of_follows {rest : List Char} (h : Layout.compact.Follows rest) : EndsNumber rest := by
  cases h <;> exact ⟨rfl, rfl⟩

/-! ### Values -/

theorem isSpace_of_startsValue {c : Char} {rest : List Char} (h : StartsValue (c :: rest)) : isSpace c = false :=
  h.eq_false (fun _ => isSpace_of_isDigit) rfl

theorem skipSpace_of_startsValue {s : List Char} (h : StartsValue s) : skipSpace s = s := by
  match s, h with
  | c :: rest, h => exact List.dropWhile_cons_of_neg (Bool.eq_false_iff.mp (isSpace_of_startsValue h))

theorem skipSpace_comma (s : List Char) : skipSpace (',' :: s) = ',' :: s := rfl

theorem skipSpace_bracket (s : List Char) : skipSpace (']' :: s) = ']' :: s := rfl

theorem skipSpace_brace (s : List Char) : skipSpace ('}' :: s) = '}' :: s := rfl

/-- A strict reader makes of a value what it is. -/
def meaning : Meaning Json String where
  null := .null
  bool := .bool
  integer := .integer
  text s := some (.text s)
  name := some
  array := .array
  object := .object

mutual

theorem value_meaning : (j : Json) → meaning.value j = some j
  | .null => rfl
  | .bool _ => rfl
  | .integer _ => rfl
  | .text _ => rfl
  | .array items => by
    rw [Meaning.value, items_meaning items]
    rfl
  | .object members => by
    rw [Meaning.value, members_meaning members]
    rfl

theorem items_meaning : (items : List Json) → meaning.items items = some items
  | [] => rfl
  | item :: rest => by
    rw [Meaning.items_cons, value_meaning item, items_meaning rest]
    rfl

theorem members_meaning : (members : List (String × Json)) → meaning.members members = some members
  | [] => rfl
  | (name, value) :: rest => by
    rw [Meaning.members_cons, value_meaning value, members_meaning rest]
    rfl

end

def reader : Reader Json String where
  value := readValue
  items := readItems
  members := readMembers

section Branches
variable {bound : Nat} {s t rest : List Char} {v : Option Json}

theorem readValue_integerText (bound : Nat) (n : Int) (h : EndsNumber rest) :
    readValue (bound + 1) (integerText n ++ rest) = some (.integer n, rest) := by
  have hinteger : readInteger (integerText n ++ rest) = some (n, rest) := readInteger_eq_some_iff.mpr ⟨rfl, h⟩
  obtain ⟨c, t, ht, hc⟩ := exists_integerText_eq_cons n
  rw [ht, List.cons_append] at hinteger ⊢
  have hword : readWord (c :: (t ++ rest)) = none := by
    unfold readWord
    split <;> simp_all
  unfold readValue
  split
  · simp_all
  · simp_all
  · simp_all
  · simp only [hword, hinteger, Option.map_some]

theorem readValue_quote (bound : Nat) (s : String) (rest : List Char) :
    readValue (bound + 1) (quote s ++ rest) = some (.text s, rest) := by
  rw [quote_append, readValue, readText_quoted]
  rfl

theorem readValue_array (bound : Nat) (hs : StartsValue s) :
    readValue (bound + 1) ('[' :: s) = (readItems bound s).map (Prod.map .array id) := by
  rw [readValue, skipSpace_of_startsValue hs]
  split
  · exact absurd rfl (hs.ne (by decide))
  · rfl

theorem readValue_object (bound : Nat) (hs : StartsValue s) :
    readValue (bound + 1) ('{' :: s) = (readMembers bound s).map (Prod.map .object id) := by
  rw [readValue, skipSpace_of_startsValue hs]
  split
  · exact absurd rfl (hs.ne (by decide))
  · rfl

theorem readItems_last (hv : readValue bound s = v.map (·, ']' :: rest)) :
    readItems (bound + 1) s = v.map ([·], rest) := by
  rw [readItems, hv]
  cases v with
  | none => rfl
  | some v => simp only [Option.map_some, skipSpace_bracket]

theorem readItems_next (ht : StartsValue t) (hv : readValue bound s = v.map (·, ',' :: t)) :
    readItems (bound + 1) s = v.bind fun v => (readItems bound t).map (Prod.map (v :: ·) id) := by
  rw [readItems, hv]
  cases v with
  | none => rfl
  | some v =>
    simp only [Option.map_some, skipSpace_comma, skipSpace_of_startsValue ht]
    rfl

theorem readMembers_last (name : String) (hs : StartsValue s) (hv : readValue bound s = v.map (·, '}' :: rest)) :
    readMembers (bound + 1) (quote name ++ ':' :: s) = v.map fun v => ([(name, v)], rest) := by
  have hcolon : skipSpace (':' :: s) = ':' :: s := rfl
  rw [quote_append, readMembers, readText_quoted]
  simp only [hcolon, skipSpace_of_startsValue hs, hv]
  cases v with
  | none => rfl
  | some v => simp only [Option.map_some, skipSpace_brace]

theorem readMembers_next (name : String) (hs : StartsValue s) (ht : StartsValue t)
    (hv : readValue bound s = v.map (·, ',' :: t)) :
    readMembers (bound + 1) (quote name ++ ':' :: s) =
      v.bind fun v => (readMembers bound t).map (Prod.map ((name, v) :: ·) id) := by
  have hcolon : skipSpace (':' :: s) = ':' :: s := rfl
  rw [quote_append, readMembers, readText_quoted]
  simp only [hcolon, skipSpace_of_startsValue hs, hv]
  cases v with
  | none => rfl
  | some v =>
    simp only [Option.map_some, skipSpace_comma, skipSpace_of_startsValue ht]
    rfl

end Branches

/-- The strict reader takes each part as the compact form has it. -/
theorem reads : reader.Reads .compact meaning where
  null _ _ := rfl
  bool _ b _ := by cases b <;> rfl
  integer bound n _ hrest := readValue_integerText bound n (endsNumber_of_follows hrest)
  text := readValue_quote
  noItems _ _ := rfl
  noMembers _ _ := rfl
  array bound _ _ hs := readValue_array bound hs
  object bound _ _ hs := readValue_object bound hs
  lastItem _ hv := readItems_last hv
  nextItem _ ht hv := readItems_next ht hv
  lastMember name _ _ _ hs hv := readMembers_last name hs hv
  nextMember name _ _ _ hs ht hv := readMembers_next name hs ht hv

/-- The compact form of a value is read as that value. -/
theorem ofText?_toText (j : Json) : ofText? j.toText = some j := by
  have hvalue : readValue ((j.print .compact 0).length + 1) (j.print .compact 0 ++ []) =
      (meaning.value j).map (·, []) :=
    reads.value_print j (Nat.le_succ _) .nothing
  have hstart := startsValue_print .compact 0 j []
  rw [List.append_nil] at hvalue hstart
  rw [ofText?, toText, String.toList_ofList, String.length_ofList, skipSpace_of_startsValue hstart, hvalue,
    value_meaning]
  rfl

theorem head?_of_readValue_object {bound : Nat} {s tail : List Char} {members : List (String × Json)}
    (h : readValue bound s = some (.object members, tail)) : s.head? = some '{' := by
  cases bound with
  | zero => cases h
  | succ bound =>
    unfold readValue at h
    split at h
    · -- What starts with a bracket is an array, whether it is empty or not.
      split at h
      · cases h
      · obtain ⟨_, _, heq⟩ := Option.map_eq_some_iff.mp h
        cases heq
    · rfl
    · obtain ⟨_, _, heq⟩ := Option.map_eq_some_iff.mp h
      cases heq
    · split at h
      · rename_i r hword
        cases h
        unfold readWord at hword
        split at hword <;> cases hword
      · obtain ⟨_, _, heq⟩ := Option.map_eq_some_iff.mp h
        cases heq

/-- A text that is read as an object starts with a brace, if it does not start with a blank. -/
theorem head?_of_ofText?_object {text : String} {c : Char} {members : List (String × Json)}
    (hhead : text.toList.head? = some c) (hspace : isSpace c = false) (h : ofText? text = some (.object members)) :
    c = '{' := by
  obtain ⟨rest, hrest⟩ := List.head?_eq_some_iff.mp hhead
  have hskip : skipSpace (c :: rest) = c :: rest := List.dropWhile_cons_of_neg (Bool.eq_false_iff.mp hspace)
  rw [ofText?, hrest, hskip] at h
  split at h
  · rename_i value tail hvalue
    split at h
    · cases h
      exact Option.some.inj (head?_of_readValue_object hvalue)
    · cases h
  · cases h

/-! ### Lines -/

/-- No control character stands in the text, so it has no line breaks. -/
def Printable (s : List Char) : Prop := ∀ c ∈ s, 0x20 ≤ c.toNat

theorem Printable.append {s t : List Char} (hs : Printable s) (ht : Printable t) : Printable (s ++ t) :=
  fun c hc => (List.mem_append.mp hc).elim (hs c) (ht c)

theorem Printable.cons {c : Char} {s : List Char} (hc : 0x20 ≤ c.toNat) (hs : Printable s) : Printable (c :: s) :=
  List.forall_mem_cons.mpr ⟨hc, hs⟩

theorem Printable.between {first last : Char} {s : List Char} (hfirst : 0x20 ≤ first.toNat) (hs : Printable s)
    (hlast : 0x20 ≤ last.toNat) : Printable (first :: (s ++ [last])) :=
  .cons hfirst (hs.append (.cons hlast (List.forall_mem_nil _)))

theorem hexDigit_printable : ∀ n : Fin 16, 0x20 ≤ (hexDigit n.val).toNat := by
  decide

theorem printable_escape (c : Char) : Printable (escape c) := by
  by_cases hescaped : c = '"' ∨ c = '\\' ∨ c = '\x08' ∨ c = '\t' ∨ c = '\n' ∨ c = '\x0c' ∨ c = '\r'
  · rcases hescaped with rfl | rfl | rfl | rfl | rfl | rfl | rfl <;> simp [Printable, escape]
  · simp only [not_or] at hescaped
    obtain ⟨hquote, hslash, hb, ht, hn, hf, hr⟩ := hescaped
    rw [escape, if_neg hquote, if_neg hslash, if_neg hb, if_neg ht, if_neg hn, if_neg hf, if_neg hr]
    split
    · have hhigh := hexDigit_printable ⟨c.toNat / 16, by omega⟩
      have hlow := hexDigit_printable ⟨c.toNat % 16, by omega⟩
      intro d hd
      simp only [List.mem_cons, List.not_mem_nil, or_false] at hd
      rcases hd with rfl | rfl | rfl | rfl | rfl | rfl
      · decide
      · decide
      · decide
      · decide
      · exact hhigh
      · exact hlow
    · intro d hd
      rw [List.mem_singleton.mp hd]
      omega

theorem printable_quote (s : String) : Printable (quote s) := by
  have hbody : Printable (s.toList.flatMap escape) := by
    intro d hd
    obtain ⟨c, -, hc⟩ := List.mem_flatMap.mp hd
    exact printable_escape c d hc
  exact .between (by decide) hbody (by decide)

theorem printable_numeral (n : Nat) : Printable (numeral n) := by
  intro c hc
  have hdigit := Text.isDigit_of_mem_numeral hc
  have hrange : 48 ≤ c.toNat ∧ c.toNat ≤ 57 := Char.isDigit_iff_toNat.mp hdigit
  omega

theorem printable_integerText (n : Int) : Printable (integerText n) := by
  cases n with
  | ofNat n => exact printable_numeral n
  | negSucc n => exact .cons (by decide) (printable_numeral (n + 1))

mutual

theorem printable_print (indent : Nat) : (j : Json) → Printable (print .compact indent j)
  | .null => by simp [Printable, print]
  | .bool true => by simp [Printable, print]
  | .bool false => by simp [Printable, print]
  | .integer n => printable_integerText n
  | .text s => printable_quote s
  | .array [] => by simp [Printable, print]
  | .object [] => by simp [Printable, print]
  | .array (item :: items) => by
    have hitems := printable_printItems (indent + 2) (item :: items)
    rw [print, List.append_assoc, List.append_assoc]
    exact .between (by decide) hitems (by decide)
  | .object (member :: members) => by
    have hmembers := printable_printMembers (indent + 2) (member :: members)
    rw [print, List.append_assoc, List.append_assoc]
    exact .between (by decide) hmembers (by decide)

theorem printable_printItems (indent : Nat) : (items : List Json) → Printable (printItems .compact indent items)
  | [] => List.forall_mem_nil _
  | [item] => printable_print indent item
  | item :: next :: items =>
    (printable_print indent item).append (.cons (by decide) (printable_printItems indent (next :: items)))

theorem printable_printMembers (indent : Nat) :
    (members : List (String × Json)) → Printable (printMembers .compact indent members)
  | [] => List.forall_mem_nil _
  | [(name, value)] => (printable_quote name).append (.cons (by decide) (printable_print indent value))
  | (name, value) :: next :: members =>
    (printable_quote name).append (.cons (by decide) ((printable_print indent value).append
      (.cons (by decide) (printable_printMembers indent (next :: members)))))

end

/-- The text is one line that holds the value and nothing else. -/
def IsLineOf (j : Json) (s : String) : Prop :=
  ∃ line : String, s = line ++ "\n" ∧ Printable line.toList ∧ ofText? line = some j

theorem isLineOf_toLine (j : Json) : j.IsLineOf j.toLine := by
  refine ⟨j.toText, rfl, ?_, ofText?_toText j⟩
  rw [toText, String.toList_ofList]
  exact printable_print 0 j

end AttributeRules.Json
