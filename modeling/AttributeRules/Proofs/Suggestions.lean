import AttributeRules.Config.Lookup
import AttributeRules.Proofs.ByteOrder
import AttributeRules.Proofs.Edits
import AttributeRules.Proofs.Entries

/-! The names that are suggested for an unknown one.

Defined names within the threshold are ranked by their distance and then by their bytes. The ranking is strict, as no name
is defined twice, so it is determined by the names in it; and as it goes by distance first, a lower threshold cuts it off
(`suggest_eq_nearest`). -/

namespace AttributeRules
open Text

/-- In a list that is in some order, what satisfies a condition that is inherited downwards stands in front. -/
theorem filter_prefix_of_pairwise {α : Type} {R : α → α → Prop} {p : α → Bool}
    (hp : ∀ a b, R a b → p b = true → p a = true) {l : List α} (hl : l.Pairwise R) : l.filter p <+: l := by
  induction l with
  | nil => exact List.prefix_rfl
  | cons a l ih =>
    obtain ⟨ha, hl⟩ := List.pairwise_cons.mp hl
    by_cases hpa : p a = true
    · rw [List.filter_cons_of_pos hpa]
      exact (List.prefix_cons_inj a).mpr (ih hl)
    · have hnil : l.filter p = [] := List.filter_eq_nil_iff.mpr fun b hb hpb => hpa (hp a b (ha b hb) hpb)
      rw [List.filter_cons_of_neg hpa, hnil]
      exact List.nil_prefix

namespace Config

/-! ### The order of suggestions -/

theorem comesBefore_iff {a b : String × Nat} : comesBefore a b = true ↔ a.2 < b.2 ∨ a.2 = b.2 ∧ a.1 ≤ b.1 := by
  simp [comesBefore]

theorem comesBefore_trans (a b c : String × Nat) (hab : comesBefore a b = true) (hbc : comesBefore b c = true) :
    comesBefore a c = true := by
  rw [comesBefore_iff] at hab hbc ⊢
  rcases hab with hab | ⟨hab, hnames⟩
  · left
    omega
  · rcases hbc with hbc | ⟨hbc, hnames'⟩
    · left
      omega
    · exact .inr ⟨hab.trans hbc, String.le_trans hnames hnames'⟩

theorem comesBefore_total (a b : String × Nat) : (comesBefore a b || comesBefore b a) = true := by
  rw [Bool.or_eq_true, comesBefore_iff, comesBefore_iff]
  rcases Nat.lt_trichotomy a.2 b.2 with h | h | h
  · exact .inl (.inl h)
  · exact (String.le_total a.1 b.1).imp (fun hle => .inr ⟨h, hle⟩) (fun hle => .inr ⟨h.symm, hle⟩)
  · exact .inr (.inl h)

theorem comesBefore_antisymm {a b : String × Nat} (hab : comesBefore a b = true) (hba : comesBefore b a = true) :
    a = b := by
  rw [comesBefore_iff] at hab hba
  have hdistance : a.2 = b.2 := by omega
  have hle : a.1 ≤ b.1 := (hab.resolve_left (by omega)).2
  have hge : b.1 ≤ a.1 := (hba.resolve_left (by omega)).2
  exact Prod.ext (String.le_antisymm hle hge) hdistance

/-! ### The ranking -/

/-- The defined names within a threshold, with their distances, in the order of suggestions. -/
def ranked (rules : NameMap String) (name : String) (threshold : Nat) : List (String × Nat) :=
  ((rules.names.map fun known => (known, nameDistance name known)).filter fun (_, distance) =>
    distance ≤ threshold).mergeSort comesBefore

theorem suggest_eq (c : Config) (name : String) :
    c.suggest name = (ranked c.rules name c.settings.suggestionThreshold.toNat).map (·.1) := rfl

section Ranked
variable {rules : NameMap String} {name : String} {s t : Nat}

theorem mem_ranked {e : String × Nat} :
    e ∈ ranked rules name t ↔ e.1 ∈ rules.names ∧ e.2 = nameDistance name e.1 ∧ e.2 ≤ t := by
  obtain ⟨known, distance⟩ := e
  simp only [ranked, List.mem_mergeSort, List.mem_filter, List.mem_map, Prod.mk.injEq, decide_eq_true_eq]
  constructor
  · rintro ⟨⟨k, hk, rfl, rfl⟩, hle⟩
    exact ⟨hk, rfl, hle⟩
  · rintro ⟨hk, rfl, hle⟩
    exact ⟨⟨known, hk, rfl, rfl⟩, hle⟩

theorem pairwise_ranked : (ranked rules name t).Pairwise (comesBefore · · = true) :=
  List.pairwise_mergeSort comesBefore_trans comesBefore_total _

theorem nodup_ranked : ((ranked rules name t).map (·.1)).Nodup := by
  have hperm := (List.mergeSort_perm
    ((rules.names.map fun known => (known, nameDistance name known)).filter fun (_, distance) => distance ≤ t)
    comesBefore).map (·.1)
  refine hperm.nodup_iff.mpr ((List.filter_sublist.map _).nodup ?_)
  rw [List.map_map]
  exact (List.map_id rules.names).symm ▸ rules.nodup_names

/-- What is within the lower threshold is ranked alike. -/
theorem filter_ranked (h : s ≤ t) : (ranked rules name t).filter (fun e => e.2 ≤ s) = ranked rules name s := by
  -- Both are in the order of suggestions, so it is enough that they have the same members.
  refine List.Perm.eq_of_pairwise (fun _ _ _ _ => comesBefore_antisymm) (pairwise_ranked.filter _) pairwise_ranked ?_
  refine ((List.mergeSort_perm _ _).filter _).trans (.trans (.of_eq ?_) (List.mergeSort_perm _ _).symm)
  rw [List.filter_filter]
  refine List.filter_congr fun e _ => ?_
  rw [← Bool.decide_and]
  exact decide_eq_decide.mpr ⟨And.left, fun hs => ⟨hs, Nat.le_trans hs h⟩⟩

theorem isPrefix_ranked (h : s ≤ t) : ranked rules name s <+: ranked rules name t := by
  rw [← filter_ranked h]
  refine filter_prefix_of_pairwise (fun a b hab hb => ?_) pairwise_ranked
  rw [decide_eq_true_eq] at hb ⊢
  rcases comesBefore_iff.mp hab with hlt | ⟨heq, -⟩
  · omega
  · omega

end Ranked

/-! ### Suggestions -/

/-- One name is suggested before another: it is nearer, or it is as near and its bytes come first. -/
def SuggestedBefore (name a b : String) : Prop :=
  nameDistance name a < nameDistance name b ∨ nameDistance name a = nameDistance name b ∧ bytes a < bytes b

instance (name a b : String) : Decidable (SuggestedBefore name a b) := inferInstanceAs (Decidable (_ ∨ _ ∧ _))

theorem SuggestedBefore.not_after {name a b : String} (h : SuggestedBefore name a b) : ¬ SuggestedBefore name b a := by
  rintro (hlt | ⟨heq, hbytes⟩)
  · rcases h with h | ⟨h, -⟩
    · omega
    · omega
  · rcases h with h | ⟨-, h⟩
    · omega
    · exact List.lt_asymm h hbytes

theorem pairwise_suggest (c : Config) (name : String) : (c.suggest name).Pairwise (SuggestedBefore name) := by
  rw [suggest_eq, List.pairwise_map]
  refine (pairwise_ranked.and (List.pairwise_map.mp nodup_ranked)).imp_of_mem fun {a b} ha hb hab => ?_
  obtain ⟨hbefore, hne⟩ := hab
  obtain ⟨-, hda, -⟩ := mem_ranked.mp ha
  obtain ⟨-, hdb, -⟩ := mem_ranked.mp hb
  rw [SuggestedBefore, ← hda, ← hdb, ← lt_iff_bytes_lt]
  refine (comesBefore_iff.mp hbefore).imp_right fun ⟨heq, hle⟩ => ⟨heq, ?_⟩
  exact String.not_le.mp fun hge => hne (String.le_antisymm hle hge)

theorem mem_suggest_iff {c : Config} {name k : String} :
    k ∈ c.suggest name ↔ k ∈ c.rules.names ∧ nameDistance name k ≤ c.settings.suggestionThreshold.toNat := by
  rw [suggest_eq, List.mem_map]
  constructor
  · rintro ⟨e, he, rfl⟩
    obtain ⟨hk, hd, hle⟩ := mem_ranked.mp he
    exact ⟨hk, hd ▸ hle⟩
  · rintro ⟨hk, hle⟩
    exact ⟨(k, nameDistance name k), mem_ranked.mpr ⟨hk, rfl, hle⟩, rfl⟩

theorem nodup_suggest (c : Config) (name : String) : (c.suggest name).Nodup := nodup_ranked

/-- No other list of the names within the threshold is in this order. -/
theorem suggest_eq_of_perm {c : Config} {name : String} {l : List String} (hl : l.Pairwise (SuggestedBefore name))
    (hperm : l.Perm (c.rules.names.filter fun k => nameDistance name k ≤ c.settings.suggestionThreshold.toNat)) :
    c.suggest name = l := by
  have hnames : (c.suggest name).Perm
      (c.rules.names.filter fun k => nameDistance name k ≤ c.settings.suggestionThreshold.toNat) := by
    refine (List.perm_ext_iff_of_nodup (nodup_suggest c name) (c.rules.nodup_names.filter _)).mpr fun k => ?_
    rw [mem_suggest_iff, List.mem_filter, decide_eq_true_eq]
  have hantisymm : ∀ a b, a ∈ c.suggest name → b ∈ l → SuggestedBefore name a b → SuggestedBefore name b a → a = b :=
    fun _ _ _ _ hab hba => absurd hba hab.not_after
  exact (hnames.trans hperm.symm).eq_of_pairwise hantisymm (pairwise_suggest c name) hl

/-- The defined names are suggested whose distance is within the threshold, each of them once, in the order of their
distances and at one distance in that of their bytes. The distance is the least number of edits between the names in lower
case. With a lower threshold less is suggested, from the front. -/
theorem suggest_eq_nearest (c : Config) (name : String) :
    (∀ k, IsLeast {n | Edits n (lowercase name.toList) (lowercase k.toList)} (nameDistance name k)) ∧
      (∀ k, k ∈ c.suggest name ↔ k ∈ c.rules.names ∧ nameDistance name k ≤ c.settings.suggestionThreshold.toNat) ∧
      (c.suggest name).Nodup ∧ (c.suggest name).Pairwise (SuggestedBefore name) ∧
      ∀ other : Config, other.rules = c.rules →
        c.settings.suggestionThreshold ≤ other.settings.suggestionThreshold → c.suggest name <+: other.suggest name := by
  refine ⟨fun k => isLeast_editDistance _ _, fun k => mem_suggest_iff, nodup_suggest c name, pairwise_suggest c name,
    fun other hrules hle => ?_⟩
  rw [suggest_eq, suggest_eq, hrules]
  exact (isPrefix_ranked hle).map _

/-- Names that only differ in case are at one distance. One letter less is farther, though the bytes come before. -/
theorem suggest_names_of_other_case :
    let rules := NameMap.ofList [("Adult", "a > 17"), ("ADULT", "a > 20"), ("Adul", "a > 16"), ("child", "a < 9")]
    let exact : Config := ⟨rules, { suggestionThreshold := 0 }⟩
    let near : Config := ⟨rules, { suggestionThreshold := 1 }⟩
    exact.suggest "adult" = ["ADULT", "Adult"] ∧ near.suggest "adult" = ["ADULT", "Adult", "Adul"] ∧
      exact.suggest "adult" <+: near.suggest "adult" := by
  intro rules exact near
  have hexact : exact.suggest "adult" = ["ADULT", "Adult"] := suggest_eq_of_perm (by decide +kernel) (by decide +kernel)
  have hnear : near.suggest "adult" = ["ADULT", "Adult", "Adul"] :=
    suggest_eq_of_perm (by decide +kernel) (by decide +kernel)
  exact ⟨hexact, hnear, (suggest_eq_nearest exact "adult").2.2.2.2 near rfl (by decide)⟩

end Config
end AttributeRules
