import Mathlib.Data.List.Dedup
import AttributeRules.NameMap

/-! The values of a map, which determine it, and what the operations do to them. -/

namespace AttributeRules.NameMap
variable {α : Type}

theorem get?_insert (m : NameMap α) (name other : String) (value : α) :
    (m.insert name value).get? other = ([(name, value)].lookup other).or (m.get? other) := by
  by_cases h : other = name
  · subst h
    rw [get?_insert_self, List.lookup_cons_self, Option.some_or]
  · rw [get?_insert_of_ne h, List.lookup_cons, beq_eq_false_iff_ne.mpr h, List.lookup_nil, Option.none_or]

theorem get?_erase (m : NameMap α) (name other : String) :
    (m.erase name).get? other = if other = name then none else m.get? other := by
  refine Option.ext fun value => ?_
  split
  · rename_i heq
    simp [get?_eq_some_iff, erase, heq]
  · rename_i hne
    rw [get?_eq_some_iff, get?_eq_some_iff, erase, List.mem_filter]
    simp [hne]

theorem erase_eq_self {m : NameMap α} {name : String} (h : m.get? name = none) : m.erase name = m := by
  refine ext (List.filter_eq_self.mpr fun e he => decide_eq_true fun heq => ?_)
  have hget : m.get? e.1 = some e.2 := get?_eq_some_iff.mpr he
  rw [heq, h] at hget
  cases hget

theorem mem_names_iff {m : NameMap α} {name : String} : name ∈ m.names ↔ ∃ value, m.get? name = some value := by
  simp [names, get?_eq_some_iff]

theorem nodup_names (m : NameMap α) : m.names.Nodup :=
  List.pairwise_map.mpr (m.sorted.imp fun h => String.ne_of_lt h)

theorem nodup_entries (m : NameMap α) : m.entries.Nodup :=
  List.Nodup.of_map Prod.fst m.nodup_names

theorem ext_get? {m n : NameMap α} (h : ∀ name, m.get? name = n.get? name) : m = n := by
  have hmem : ∀ e, e ∈ m.entries ↔ e ∈ n.entries := by
    intro e
    rw [← get?_eq_some_iff, ← get?_eq_some_iff, h]
  have hperm : m.entries.Perm n.entries :=
    (List.perm_ext_iff_of_nodup m.nodup_entries n.nodup_entries).mpr hmem
  exact ext (hperm.eq_of_pairwise (fun a b _ _ hab hba => absurd hba (String.lt_asymm hab)) m.sorted n.sorted)

theorem get?_foldl_insert (m : NameMap α) (es : List (String × α)) (name : String) :
    (es.foldl (fun m e => m.insert e.1 e.2) m).get? name = (es.reverse.lookup name).or (m.get? name) := by
  induction es generalizing m with
  | nil => rfl
  | cons e rest ih =>
    rw [List.foldl_cons, ih, get?_insert, List.reverse_cons, List.lookup_append, Option.or_assoc]

/-- Of the entries with a name, the last one counts. -/
theorem get?_ofList (es : List (String × α)) (name : String) : (ofList es).get? name = es.reverse.lookup name := by
  rw [ofList, get?_foldl_insert, get?_empty, Option.or_none]

theorem get?_ofList_eq_some_iff {es : List (String × α)} {name : String} {value : α} :
    (ofList es).get? name = some value ↔
      ∃ before after, es = before ++ (name, value) :: after ∧ ∀ e ∈ after, e.1 ≠ name := by
  rw [get?_ofList, List.lookup_eq_some_iff]
  constructor
  · rintro ⟨after, before, hes, hafter⟩
    refine ⟨before.reverse, after.reverse, ?_, fun e he => ?_⟩
    · rw [← List.reverse_reverse es, hes]
      simp
    · exact (bne_iff_ne.mp (hafter e (List.mem_reverse.mp he))).symm
  · rintro ⟨before, after, rfl, hafter⟩
    refine ⟨after.reverse, before.reverse, by simp, fun e he => ?_⟩
    exact bne_iff_ne.mpr (hafter e (List.mem_reverse.mp he)).symm

theorem get?_ofList_eq_none_iff {es : List (String × α)} {name : String} :
    (ofList es).get? name = none ↔ ∀ e ∈ es, e.1 ≠ name := by
  rw [get?_ofList, List.lookup_eq_none_iff]
  refine forall_congr' fun e => ?_
  rw [List.mem_reverse, bne_iff_ne, ne_comm]

theorem mem_names_ofList_iff {es : List (String × α)} {name : String} :
    name ∈ (ofList es).names ↔ name ∈ es.map Prod.fst := by
  rw [mem_names_iff, ← Option.ne_none_iff_exists', Ne, get?_ofList_eq_none_iff]
  simp

/-- A map has as many entries as there are names in the list. -/
theorem size_ofList (es : List (String × α)) : (ofList es).size = (es.map Prod.fst).dedup.length := by
  have hperm : (ofList es).names.Perm (es.map Prod.fst).dedup := by
    refine (List.perm_ext_iff_of_nodup (nodup_names _) (List.nodup_dedup _)).mpr fun name => ?_
    rw [mem_names_ofList_iff, List.mem_dedup]
  rw [← hperm.length_eq, names, List.length_map, size]

/-- The entries of a map make it in any order. -/
theorem ofList_of_perm {m : NameMap α} {es : List (String × α)} (h : es.Perm m.entries) : ofList es = m := by
  have hnodup : (es.map Prod.fst).Nodup := (h.map Prod.fst).nodup_iff.mpr m.nodup_names
  refine ext_get? fun name => Option.ext fun value => ?_
  rw [get?_ofList_eq_some_iff, get?_eq_some_iff, ← h.mem_iff]
  constructor
  · rintro ⟨before, after, rfl, -⟩
    simp
  · intro hmem
    obtain ⟨before, after, rfl⟩ := List.append_of_mem hmem
    refine ⟨before, after, rfl, fun e he heq => ?_⟩
    rw [List.map_append, List.map_cons] at hnodup
    have hnot := (List.nodup_cons.mp (List.nodup_append.mp hnodup).2.1).1
    exact hnot (List.mem_map.mpr ⟨e, he, heq⟩)

/-- A map of names to their values under a function. -/
theorem get?_ofList_graph (value : String → α) {names : List String} {name : String} (h : name ∈ names) :
    (ofList (names.map fun n => (n, value n))).get? name = some (value name) := by
  rw [get?_ofList, ← List.map_reverse]
  exact List.lookup_graph value (List.mem_reverse.mpr h)

end AttributeRules.NameMap
