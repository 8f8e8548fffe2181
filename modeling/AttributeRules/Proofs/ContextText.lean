import AttributeRules.Command.Run
import AttributeRules.Proofs.Entries
import AttributeRules.Proofs.Spelling

/-! Contexts and the texts that list their pairs.

A text lists pairs if it is one object with a member for each pair, in their order. A name may come again, and blanks may
stand around each part. The reader accepts such texts and no others, and the context it makes is the one that collects
the pairs (`ofJsonText?_eq_some_iff`). A printed context is such a text, so it is read back
(`builtFrom_and_readsBack`). -/

namespace AttributeRules
open Json Text

/-! ### Values -/

/-- The spelling of a value: an integer by its numeral, and a text with its quotes. -/
inductive SpellsValue : List Char → Value → Prop
  | integer (n : Int64) : SpellsValue (integerText n.toInt) (.integer n)
  | text {s : List Char} {text : String} (h : SpellsText s text) : SpellsValue s (.text text)

/-- A value is spelled from a character on that tells its kind. -/
theorem SpellsValue.exists_eq_cons {s : List Char} {v : Value} (h : SpellsValue s v) :
    ∃ c t, s = c :: t ∧ isSpace c = false ∧ (v.kind = .text ↔ c = '"') := by
  cases h with
  | integer n =>
    obtain ⟨c, t, ht, hc⟩ := exists_integerText_eq_cons n.toInt
    refine ⟨c, t, ht, ?_, iff_of_false nofun ?_⟩
    · rcases hc with hc | rfl
      · exact isSpace_of_isDigit hc
      · rfl
    · rintro rfl
      exact absurd hc (by decide)
  | text h =>
    obtain ⟨t, rfl⟩ := h.exists_eq_cons
    exact ⟨'"', t, rfl, rfl, iff_of_true rfl rfl⟩

theorem Value.readJson_eq_some_iff {s rest : List Char} {v : Value} :
    Value.readJson s = some (v, rest) ↔
      ∃ t, s = t ++ rest ∧ SpellsValue t v ∧ (v.kind = .integer → EndsNumber rest) := by
  constructor
  · intro h
    unfold Value.readJson at h
    split at h
    · obtain ⟨⟨text, tail⟩, hread, heq⟩ := Option.map_eq_some_iff.mp h
      cases heq
      obtain ⟨t, hs, ht⟩ := readText_eq_some_iff.mp hread
      exact ⟨t, hs, .text ht, nofun⟩
    · split at h
      · rename_i n tail hread
        split at h
        · rename_i hrange
          cases h
          obtain ⟨rfl, hends⟩ := readInteger_eq_some_iff.mp hread
          have hn : (Int64.ofInt n).toInt = n :=
            Int64.toInt_ofInt_of_le hrange.1 (Int.lt_of_le_of_lt hrange.2 (by decide))
          refine ⟨integerText n, rfl, ?_, fun _ => hends⟩
          have hspells := SpellsValue.integer (Int64.ofInt n)
          rwa [hn] at hspells
        · cases h
      · cases h
  · rintro ⟨t, rfl, hspells, hends⟩
    cases hspells with
    | integer n =>
      have hread : readInteger (integerText n.toInt ++ rest) = some (n.toInt, rest) :=
        readInteger_eq_some_iff.mpr ⟨rfl, hends rfl⟩
      unfold Value.readJson
      split
      · rename_i heq
        obtain ⟨c, t, ht, -, hc⟩ := (SpellsValue.integer n).exists_eq_cons
        rw [ht, List.cons_append] at heq
        exact absurd (hc.mpr (List.cons.inj heq).1) nofun
      · rw [hread]
        simp only
        rw [if_pos ⟨n.minValue_le_toInt, n.toInt_le⟩, Int64.ofInt_toInt]
    | text h =>
      obtain ⟨u, rfl⟩ := h.exists_eq_cons
      rw [List.cons_append, Value.readJson, h.readText_append]
      rfl

/-- The texts of values are those that spell one between blanks. -/
theorem Value.ofJsonText?_eq_some_iff {text : String} {v : Value} :
    Value.ofJsonText? text = some v ↔
      ∃ a s b, text.toList = a ++ (s ++ b) ∧ Blanks a ∧ SpellsValue s v ∧ Blanks b := by
  unfold Value.ofJsonText?
  constructor
  · intro h
    split at h
    · rename_i rest hread
      split at h
      · rename_i hblanks
        cases h
        obtain ⟨s, hs, hspells, -⟩ := Value.readJson_eq_some_iff.mp hread
        obtain ⟨a, ha, htext⟩ := exists_blanks_append text.toList
        rw [hs] at htext
        exact ⟨a, s, rest, htext, ha, hspells, skipSpace_eq_nil_iff.mp (List.isEmpty_iff.mp hblanks)⟩
      · cases h
    · cases h
  · rintro ⟨a, s, b, htext, ha, hspells, hb⟩
    have hends : EndsNumber b := by
      rw [← List.append_nil b]
      exact EndsNumber.blanks_append ⟨rfl, rfl⟩ hb
    have hread : Value.readJson (s ++ b) = some (v, b) := Value.readJson_eq_some_iff.mpr ⟨s, rfl, hspells, fun _ => hends⟩
    have hskip : skipSpace (a ++ (s ++ b)) = s ++ b := by
      obtain ⟨c, t, rfl, hc, -⟩ := hspells.exists_eq_cons
      exact skipSpace_append_cons ha hc _
    rw [htext, hskip, hread]
    simp only [skipSpace_eq_nil_iff.mpr hb]
    rfl

/-- A value is read as a text exactly if it starts with a quote. -/
theorem Value.kind_of_ofJsonText? {text : String} {v : Value} (h : Value.ofJsonText? text = some v) :
    v.kind = .text ↔ (skipSpace text.toList).head? = some '"' := by
  obtain ⟨a, s, b, htext, ha, hspells, -⟩ := Value.ofJsonText?_eq_some_iff.mp h
  obtain ⟨c, t, rfl, hc, hkind⟩ := hspells.exists_eq_cons
  rw [htext, List.cons_append, skipSpace_append_cons ha hc, List.head?_cons, Option.some.injEq, hkind]

/-! ### Members -/

/-- The spelling of a pair: the name, a colon and the value. -/
inductive SpellsMember : List Char → String × Value → Prop
  | mk {n a b v : List Char} {name : String} {value : Value} (hname : SpellsText n name) (ha : Blanks a)
    (hb : Blanks b) (hvalue : SpellsValue v value) : SpellsMember (n ++ (a ++ ':' :: (b ++ v))) (name, value)

/-- Members with commas between them; there is at least one. -/
inductive SpellsMembers : List Char → List (String × Value) → Prop
  | last {m b : List Char} {e : String × Value} (hm : SpellsMember m e) (hb : Blanks b) : SpellsMembers (m ++ b) [e]
  | more {m b a s : List Char} {e : String × Value} {es : List (String × Value)} (hm : SpellsMember m e) (hb : Blanks b)
    (ha : Blanks a) (hs : SpellsMembers s es) : SpellsMembers (m ++ (b ++ ',' :: (a ++ s))) (e :: es)

/-- An object that lists the pairs. -/
inductive SpellsObject : List Char → List (String × Value) → Prop
  | empty {b : List Char} (hb : Blanks b) : SpellsObject ('{' :: (b ++ ['}'])) []
  | members {b s : List Char} {es : List (String × Value)} (hb : Blanks b) (hs : SpellsMembers s es) :
    SpellsObject ('{' :: (b ++ (s ++ ['}']))) es

/-- The text is one object between blanks that lists the pairs in their order. -/
def Lists (text : String) (es : List (String × Value)) : Prop :=
  ∃ a s b, text.toList = a ++ (s ++ b) ∧ Blanks a ∧ SpellsObject s es ∧ Blanks b

theorem SpellsMember.exists_eq_cons {m : List Char} {e : String × Value} (h : SpellsMember m e) : ∃ t, m = '"' :: t := by
  obtain ⟨hname, -, -, -⟩ := h
  obtain ⟨t, rfl⟩ := hname.exists_eq_cons
  exact ⟨_, rfl⟩

theorem SpellsMembers.exists_eq_cons {s : List Char} {es : List (String × Value)} (h : SpellsMembers s es) :
    ∃ t, s = '"' :: t := by
  cases h with
  | last hm _ | more hm _ _ _ =>
    obtain ⟨t, rfl⟩ := hm.exists_eq_cons
    exact ⟨_, rfl⟩

theorem readMember_append {m rest : List Char} {e : String × Value} (h : SpellsMember m e) (hends : EndsNumber rest) :
    Context.readMember (m ++ rest) = some (e, skipSpace rest) := by
  cases h with
  | @mk n a b v name value hname ha hb hvalue =>
    have hread : Value.readJson (v ++ rest) = some (value, rest) :=
      Value.readJson_eq_some_iff.mpr ⟨v, rfl, hvalue, fun _ => hends⟩
    obtain ⟨t, rfl⟩ := hname.exists_eq_cons
    obtain ⟨c, u, rfl, hc, -⟩ := hvalue.exists_eq_cons
    have hparts : '"' :: t ++ (a ++ ':' :: (b ++ c :: u)) ++ rest =
        '"' :: (t ++ (a ++ ':' :: (b ++ (c :: u ++ rest)))) := by
      simp
    have hcolon := skipSpace_append_cons ha (show isSpace ':' = false from rfl) (b ++ (c :: u ++ rest))
    have hstart : skipSpace (b ++ (c :: u ++ rest)) = c :: u ++ rest := skipSpace_append_cons hb hc (u ++ rest)
    rw [hparts, Context.readMember, hname.readText_append]
    simp only [hcolon, hstart, hread, Option.map_some]

theorem exists_spellsMember {s tail : List Char} {e : String × Value} (h : Context.readMember s = some (e, tail)) :
    ∃ m b, s = m ++ (b ++ tail) ∧ SpellsMember m e ∧ Blanks b := by
  unfold Context.readMember at h
  split at h
  · split at h
    · cases h
    · rename_i rest name rest₁ hname
      split at h
      · rename_i rest₂ hcolon
        obtain ⟨⟨value, rest₃⟩, hvalue, heq⟩ := Option.map_eq_some_iff.mp h
        cases heq
        obtain ⟨n, hs, hn⟩ := readText_eq_some_iff.mp hname
        obtain ⟨v, hv, hspells, -⟩ := Value.readJson_eq_some_iff.mp hvalue
        obtain ⟨a, ha, hrest₁⟩ := exists_blanks_append rest₁
        obtain ⟨b, hb, hrest₂⟩ := exists_blanks_append rest₂
        obtain ⟨d, hd, hrest₃⟩ := exists_blanks_append rest₃
        refine ⟨n ++ (a ++ ':' :: (b ++ v)), d, ?_, .mk hn ha hb hspells, hd⟩
        rw [← hrest₃, hs, hrest₁, hcolon, hrest₂, hv]
        simp
      · cases h
  · cases h

theorem readMembers_append {bound : Nat} {s : List Char} {es : List (String × Value)} (h : SpellsMembers s es)
    (hbound : s.length ≤ bound) (rest : List Char) :
    Context.readMembers bound (s ++ '}' :: rest) = some (es, rest) := by
  -- Each member has a quote, so the bound goes down no faster than the length.
  induction h generalizing bound with
  | @last m b e hm hb =>
    have hread : Context.readMember (m ++ (b ++ '}' :: rest)) = some (e, '}' :: rest) := by
      rw [readMember_append hm (EndsNumber.blanks_append ⟨rfl, rfl⟩ hb), skipSpace_append_cons hb rfl]
    obtain ⟨t, rfl⟩ := hm.exists_eq_cons
    obtain ⟨bound, rfl⟩ := Nat.exists_eq_add_one.mpr (Nat.lt_of_lt_of_le (Nat.succ_pos _) hbound)
    rw [List.append_assoc, Context.readMembers, hread]
    rfl
  | @more m b a s e es hm hb ha hs ih =>
    have hread : Context.readMember (m ++ (b ++ ',' :: (a ++ (s ++ '}' :: rest)))) =
        some (e, ',' :: (a ++ (s ++ '}' :: rest))) := by
      rw [readMember_append hm (EndsNumber.blanks_append ⟨rfl, rfl⟩ hb), skipSpace_append_cons hb rfl]
    have hskip : skipSpace (a ++ (s ++ '}' :: rest)) = s ++ '}' :: rest := by
      obtain ⟨t, rfl⟩ := hs.exists_eq_cons
      exact skipSpace_append_cons ha rfl _
    obtain ⟨t, rfl⟩ := hm.exists_eq_cons
    simp only [List.length_append, List.length_cons] at hbound
    obtain ⟨bound, rfl⟩ := Nat.exists_eq_add_one.mpr (show 0 < bound by omega)
    have hparts : '"' :: t ++ (b ++ ',' :: (a ++ s)) ++ '}' :: rest =
        '"' :: t ++ (b ++ ',' :: (a ++ (s ++ '}' :: rest))) := by
      simp
    rw [hparts, Context.readMembers, hread]
    have hmore : Context.readMembers bound (s ++ '}' :: rest) = some (es, rest) := ih (by omega)
    simp only [hskip, hmore, Option.map_some]

theorem exists_spellsMembers {bound : Nat} {s tail : List Char} {es : List (String × Value)}
    (h : Context.readMembers bound s = some (es, tail)) : ∃ t, s = t ++ '}' :: tail ∧ SpellsMembers t es := by
  induction bound generalizing s es with
  | zero => cases h
  | succ bound ih =>
    unfold Context.readMembers at h
    split at h
    · rename_i e rest hread
      cases h
      obtain ⟨m, b, rfl, hm, hb⟩ := exists_spellsMember hread
      exact ⟨m ++ b, (List.append_assoc m b _).symm, .last hm hb⟩
    · rename_i e rest hread
      obtain ⟨⟨es, tail⟩, hmore, heq⟩ := Option.map_eq_some_iff.mp h
      cases heq
      obtain ⟨m, b, rfl, hm, hb⟩ := exists_spellsMember hread
      obtain ⟨t, ht, hspells⟩ := ih hmore
      obtain ⟨a, ha, hrest⟩ := exists_blanks_append rest
      refine ⟨m ++ (b ++ ',' :: (a ++ t)), ?_, .more hm hb ha hspells⟩
      rw [hrest, ht]
      simp
    · cases h

/-- The reader takes objects that list pairs, with the blanks in front, and gives the pairs. -/
theorem readObject_eq_some_iff {s rest : List Char} {es : List (String × Value)} :
    Context.readObject s = some (es, rest) ↔ ∃ a t, s = a ++ (t ++ rest) ∧ Blanks a ∧ SpellsObject t es := by
  constructor
  · intro h
    unfold Context.readObject at h
    split at h
    · rename_i rest hopen
      obtain ⟨a, ha, hs⟩ := exists_blanks_append s
      obtain ⟨b, hb, hrest⟩ := exists_blanks_append rest
      rw [hopen] at hs
      split at h
      · rename_i tail hclose
        cases h
        refine ⟨a, '{' :: (b ++ ['}']), ?_, ha, .empty hb⟩
        rw [hs, hrest, hclose]
        simp
      · obtain ⟨t, ht, hspells⟩ := exists_spellsMembers h
        refine ⟨a, '{' :: (b ++ (t ++ ['}'])), ?_, ha, .members hb hspells⟩
        rw [hs, hrest, ht]
        simp
    · cases h
  · rintro ⟨a, t, rfl, ha, ht⟩
    cases ht with
    | @empty b hb =>
      have hparts : a ++ ('{' :: (b ++ ['}']) ++ rest) = a ++ '{' :: (b ++ '}' :: rest) := by simp
      rw [Context.readObject, hparts, skipSpace_append_cons ha rfl]
      simp only [skipSpace_append_cons hb (show isSpace '}' = false from rfl)]
    | @members b s es hb hs =>
      have hread : Context.readMembers (s ++ '}' :: rest).length (s ++ '}' :: rest) = some (es, rest) :=
        readMembers_append hs (by simp) rest
      obtain ⟨t, rfl⟩ := hs.exists_eq_cons
      have hparts : a ++ ('{' :: (b ++ ('"' :: t ++ ['}'])) ++ rest) = a ++ '{' :: (b ++ '"' :: (t ++ '}' :: rest)) := by
        simp
      rw [Context.readObject, hparts, skipSpace_append_cons ha rfl]
      simp only [skipSpace_append_cons hb (show isSpace '"' = false from rfl)]
      exact hread

/-- The texts of contexts are those that list pairs, and the pairs are collected. -/
theorem Context.ofJsonText?_eq_some_iff {text : String} {c : Context} :
    Context.ofJsonText? text = some c ↔ ∃ es, Lists text es ∧ NameMap.ofList es = c := by
  unfold Context.ofJsonText?
  constructor
  · intro h
    split at h
    · rename_i es rest hread
      split at h
      · rename_i hblanks
        obtain ⟨a, s, htext, ha, hs⟩ := readObject_eq_some_iff.mp hread
        exact ⟨es, ⟨a, s, rest, htext, ha, hs, skipSpace_eq_nil_iff.mp (List.isEmpty_iff.mp hblanks)⟩, Option.some.inj h⟩
      · cases h
    · cases h
  · rintro ⟨es, ⟨a, s, b, htext, ha, hs, hb⟩, rfl⟩
    have hread : Context.readObject text.toList = some (es, b) := readObject_eq_some_iff.mpr ⟨a, s, htext, ha, hs⟩
    simp only [hread]
    rw [skipSpace_eq_nil_iff.mpr hb]
    rfl

/-! ### Printed pairs -/

/-- The object of the pairs, in their order. -/
def Json.ofPairs (es : List (String × Value)) : Json := .object (es.map fun (name, value) => (name, value.toJson))

theorem spellsValue_print (l : Layout) (indent : Nat) (v : Value) : SpellsValue (print l indent v.toJson) v := by
  cases v with
  | integer n => exact .integer n
  | text s => exact .text (spellsText_quote s)

/-- The gaps of a layout are blanks. -/
structure Json.Layout.IsBlank (l : Layout) : Prop where
  gap : ∀ indent, Blanks (l.gap indent)
  space : Blanks l.space

theorem isBlank_compact : Layout.compact.IsBlank := ⟨fun _ => .nil, .nil⟩

theorem isBlank_pretty : Layout.pretty.IsBlank where
  gap indent c hc := by
    rcases List.mem_cons.mp hc with rfl | hc
    · rfl
    · rw [List.eq_of_mem_replicate hc]
      rfl
  space := by
    simp [Blanks, Layout.pretty, isSpace]

section Layouts
variable {l : Layout} (hl : l.IsBlank)
include hl

theorem spellsMember_print (indent : Nat) (e : String × Value) :
    SpellsMember (quote e.1 ++ ':' :: (l.space ++ print l indent e.2.toJson)) e :=
  .mk (spellsText_quote e.1) .nil hl.space (spellsValue_print l indent e.2)

theorem spellsMembers_print (indent : Nat) {b : List Char} (hb : Blanks b) (e : String × Value)
    (es : List (String × Value)) :
    SpellsMembers (printMembers l indent ((e :: es).map fun (name, value) => (name, value.toJson)) ++ b) (e :: es) := by
  induction es generalizing e with
  | nil => exact .last (spellsMember_print hl indent e) hb
  | cons next es ih =>
    have hmore := SpellsMembers.more (spellsMember_print hl indent e) .nil (hl.gap indent) (ih next)
    simpa [printMembers] using hmore

theorem spellsObject_print (es : List (String × Value)) : SpellsObject (print l 0 (Json.ofPairs es)) es := by
  cases es with
  | nil => exact .empty .nil
  | cons e es =>
    have hmembers := SpellsObject.members (hl.gap 2) (spellsMembers_print hl 2 (hl.gap 0) e es)
    simpa [Json.ofPairs, print] using hmembers

end Layouts

theorem lists_of_spellsObject {text : String} {es : List (String × Value)} (h : SpellsObject text.toList es) :
    Lists text es :=
  ⟨[], text.toList, [], by simp, .nil, h, .nil⟩

theorem lists_toText (es : List (String × Value)) : Lists (Json.ofPairs es).toText es :=
  lists_of_spellsObject (String.toList_ofList ▸ spellsObject_print isBlank_compact es)

theorem lists_toPrettyText (es : List (String × Value)) : Lists (Json.ofPairs es).toPrettyText es :=
  lists_of_spellsObject (String.toList_ofList ▸ spellsObject_print isBlank_pretty es)

/-- A value is read back from its printed form, and quotes tell its kind: an integer stands in none, and digits that
stand in them are a text. -/
structure Value.ReadsBack (v : Value) : Prop where
  printed : Value.ofJsonText? v.toJson.toText = some v
  kind : ∀ text, Value.ofJsonText? text = some v → (v.kind = .text ↔ (skipSpace text.toList).head? = some '"')

theorem Value.readsBack (v : Value) : v.ReadsBack where
  printed := by
    refine Value.ofJsonText?_eq_some_iff.mpr
      ⟨[], print .compact 0 v.toJson, [], ?_, .nil, spellsValue_print .compact 0 v, .nil⟩
    rw [toText, String.toList_ofList, List.append_nil, List.nil_append]
  kind _ := Value.kind_of_ofJsonText?

/-! ### Building contexts -/

namespace Context

/-- The ways to build a context from pairs lead to one context, in which each name has the value of its last pair. -/
structure BuiltFrom (es : List (String × Value)) (c : Context) : Prop where
  collected : NameMap.ofList es = c
  inserted : es.foldl (fun c e => c.insert e.1 e.2) NameMap.empty = c
  /-- There are texts that list the pairs. -/
  listed : Lists (Json.ofPairs es).toText es
  read : ∀ text, Lists text es → Context.ofJsonText? text = some c
  loaded : ∀ fs text, Lists text es → Command.loadContext fs (.inline text) = .ok (some c)
  loadedFile : ∀ fs path text, fs.read path = .ok text → Lists text es →
    Command.loadContext fs (.file path) = .ok (some c)
  last : ∀ name value, c.get? name = some value ↔
    ∃ before after, es = before ++ (name, value) :: after ∧ ∀ e ∈ after, e.1 ≠ name
  absent : ∀ name, c.get? name = none ↔ ∀ e ∈ es, e.1 ≠ name
  /-- There is one entry for each name, however often the name comes. -/
  size : c.size = (es.map Prod.fst).dedup.length

/-- A context is read back from its printed forms, whatever the order of its entries. -/
structure ReadsBack (c : Context) : Prop where
  printed : ofJsonText? c.toJson.toText = some c
  compact : ∀ es, es.Perm c.entries → ofJsonText? (Json.ofPairs es).toText = some c
  pretty : ∀ es, es.Perm c.entries → ofJsonText? (Json.ofPairs es).toPrettyText = some c

theorem ofJsonText?_of_lists {text : String} {es : List (String × Value)} (h : Lists text es) :
    Context.ofJsonText? text = some (NameMap.ofList es) :=
  ofJsonText?_eq_some_iff.mpr ⟨es, h, rfl⟩

theorem readContext_of_lists {text : String} {es : List (String × Value)} (h : Lists text es) :
    Command.readContext text = .ok (NameMap.ofList es) := by
  rw [Command.readContext, ofJsonText?_of_lists h]

theorem builtFrom_ofList (es : List (String × Value)) : BuiltFrom es (NameMap.ofList es) where
  collected := rfl
  inserted := rfl
  listed := lists_toText es
  read _ h := ofJsonText?_of_lists h
  loaded fs text h := by
    rw [Command.loadContext, readContext_of_lists h]
    rfl
  loadedFile fs path text hread h := by
    rw [Command.loadContext, hread]
    simp only
    rw [readContext_of_lists h]
    rfl
  last _ _ := NameMap.get?_ofList_eq_some_iff
  absent _ := NameMap.get?_ofList_eq_none_iff
  size := NameMap.size_ofList es

theorem readsBack (c : Context) : ReadsBack c := by
  have hcompact : ∀ es, es.Perm c.entries → ofJsonText? (Json.ofPairs es).toText = some c := by
    intro es hes
    rw [ofJsonText?_of_lists (lists_toText es), NameMap.ofList_of_perm hes]
  refine ⟨hcompact c.entries (.refl _), hcompact, fun es hes => ?_⟩
  rw [ofJsonText?_of_lists (lists_toPrettyText es), NameMap.ofList_of_perm hes]

/-- All ways to build a context agree, and the printed form of a context or of a value is read back as it was. -/
theorem builtFrom_and_readsBack :
    (∀ es : List (String × Value), BuiltFrom es (NameMap.ofList es)) ∧ (∀ c : Context, ReadsBack c) ∧
      ∀ v : Value, v.ReadsBack :=
  ⟨builtFrom_ofList, readsBack, Value.readsBack⟩

/-- The last value of a name counts, also if the name is spelled in another way, and digits in quotes are a text. -/
example : ofJsonText? "\x7b \"a\": 7, \"\\u0061\" :\"7\"\x7d" = some (NameMap.ofList [("a", .text "7")]) := by
  decide +kernel

end Context
end AttributeRules
