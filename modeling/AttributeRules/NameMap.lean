/-! Finite maps from names to values, kept sorted by name.

Names are ordered by their characters, which is also the order of their UTF-8 bytes. The entries carry the
proof that they are strictly sorted, so two maps with the same values are the same map. -/

namespace AttributeRules

/-- A map from names to values: its entries, each name once, in increasing order of names. -/
structure NameMap (α : Type) where
  entries : List (String × α) := []
  sorted : entries.Pairwise (fun a b => a.1 < b.1) := by exact List.Pairwise.nil

namespace NameMap
variable {α : Type}

def empty : NameMap α := {}

instance : Inhabited (NameMap α) := ⟨empty⟩
instance : EmptyCollection (NameMap α) := ⟨empty⟩

theorem ext {m n : NameMap α} (h : m.entries = n.entries) : m = n := by
  cases m; cases n; cases h; rfl

instance [DecidableEq α] : DecidableEq (NameMap α) := fun m n =>
  decidable_of_iff (m.entries = n.entries) ⟨ext, fun h => h ▸ rfl⟩

def get? (m : NameMap α) (name : String) : Option α := m.entries.lookup name

def names (m : NameMap α) : List String := m.entries.map (·.1)

def size (m : NameMap α) : Nat := m.entries.length

/-- Puts an entry in its place, over an older entry of the same name. -/
def insertEntry (name : String) (value : α) : List (String × α) → List (String × α)
  | [] => [(name, value)]
  | (n, v) :: rest =>
    if name < n then (name, value) :: (n, v) :: rest
    else if name = n then (name, value) :: rest
    else (n, v) :: insertEntry name value rest

theorem mem_insertEntry {name : String} {value : α} {e : String × α} :
    ∀ {es : List (String × α)}, e ∈ insertEntry name value es → e = (name, value) ∨ e ∈ es
  | [], h => Or.inl (by simpa [insertEntry] using h)
  | (n, v) :: rest, h => by
    unfold insertEntry at h
    split at h
    · simpa using h
    · split at h
      · rcases List.mem_cons.mp h with h | h
        · exact Or.inl h
        · exact Or.inr (List.mem_cons_of_mem _ h)
      · rcases List.mem_cons.mp h with h | h
        · exact Or.inr (h ▸ List.mem_cons_self)
        · exact (mem_insertEntry h).imp_right (List.mem_cons_of_mem _)

theorem pairwise_insertEntry {name : String} {value : α} :
    ∀ {es : List (String × α)}, es.Pairwise (fun a b => a.1 < b.1) →
      (insertEntry name value es).Pairwise (fun a b => a.1 < b.1)
  | [], _ => List.pairwise_singleton _ _
  | (n, v) :: rest, h => by
    obtain ⟨hn, hrest⟩ := List.pairwise_cons.mp h
    unfold insertEntry
    split
    · rename_i hlt
      refine List.pairwise_cons.mpr ⟨fun e he => ?_, h⟩
      rcases List.mem_cons.mp he with rfl | he
      · exact hlt
      · exact String.lt_trans hlt (hn e he)
    · rename_i hle
      split
      · rename_i heq
        exact List.pairwise_cons.mpr ⟨fun e he => heq ▸ hn e he, hrest⟩
      · rename_i hne
        refine List.pairwise_cons.mpr ⟨fun e he => ?_, pairwise_insertEntry hrest⟩
        rcases mem_insertEntry he with rfl | he
        · exact String.not_le.mp fun hge => hne (String.le_antisymm hge (String.not_lt.mp hle))
        · exact hn e he

/-- Gives a name a value, in place of any older one. -/
def insert (m : NameMap α) (name : String) (value : α) : NameMap α :=
  ⟨insertEntry name value m.entries, pairwise_insertEntry m.sorted⟩

def erase (m : NameMap α) (name : String) : NameMap α :=
  ⟨m.entries.filter (·.1 ≠ name), m.sorted.filter _⟩

/-- The value of a name, if it has one, and the map without it. -/
def take (m : NameMap α) (name : String) : Option α × NameMap α := (m.get? name, m.erase name)

/-- The map of a list of entries, of which the last one with a name counts. -/
def ofList (es : List (String × α)) : NameMap α :=
  es.foldl (fun m e => m.insert e.1 e.2) empty

/-! ### What the operations do to the values -/

@[simp] theorem get?_empty (name : String) : (empty : NameMap α).get? name = none := rfl

theorem lookup_insertEntry_self (name : String) (value : α) (es : List (String × α)) :
    (insertEntry name value es).lookup name = some value := by
  induction es with
  | nil => simp [insertEntry]
  | cons e rest ih =>
    obtain ⟨n, v⟩ := e
    unfold insertEntry
    split
    · simp
    · split
      · simp
      · rename_i hne
        simp [List.lookup_cons, beq_eq_false_iff_ne.mpr hne, ih]

theorem lookup_insertEntry_of_ne {name other : String} (h : other ≠ name) (value : α) (es : List (String × α)) :
    (insertEntry name value es).lookup other = es.lookup other := by
  induction es with
  | nil => simp [insertEntry, List.lookup_cons, beq_eq_false_iff_ne.mpr h]
  | cons e rest ih =>
    obtain ⟨n, v⟩ := e
    unfold insertEntry
    split
    · simp [List.lookup_cons, beq_eq_false_iff_ne.mpr h]
    · split
      · rename_i heq
        subst heq
        simp [List.lookup_cons, beq_eq_false_iff_ne.mpr h]
      · simp [List.lookup_cons, ih]

@[simp] theorem get?_insert_self (m : NameMap α) (name : String) (value : α) :
    (m.insert name value).get? name = some value := lookup_insertEntry_self name value m.entries

theorem get?_insert_of_ne {name other : String} (h : other ≠ name) (m : NameMap α) (value : α) :
    (m.insert name value).get? other = m.get? other := lookup_insertEntry_of_ne h value m.entries

theorem lookup_eq_some_iff_mem {name : String} {value : α} :
    ∀ {es : List (String × α)}, es.Pairwise (fun a b => a.1 < b.1) →
      (es.lookup name = some value ↔ (name, value) ∈ es)
  | [], _ => by simp
  | (n, v) :: rest, h => by
    obtain ⟨hn, hrest⟩ := List.pairwise_cons.mp h
    by_cases heq : name = n
    · subst heq
      have hnot : (name, value) ∉ rest := fun hm => String.lt_irrefl name (hn (name, value) hm)
      simp [hnot, eq_comm]
    · simp [List.lookup_cons, beq_eq_false_iff_ne.mpr heq, heq, lookup_eq_some_iff_mem hrest]

theorem get?_eq_some_iff {m : NameMap α} {name : String} {value : α} :
    m.get? name = some value ↔ (name, value) ∈ m.entries := lookup_eq_some_iff_mem m.sorted

end NameMap
end AttributeRules
