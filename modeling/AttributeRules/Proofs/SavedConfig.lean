import AttributeRules.Config.File
import AttributeRules.Proofs.Entries
import AttributeRules.Proofs.Rounding
import AttributeRules.Proofs.SavedText

/-! A configuration that is saved and read again.

The numbers in it are rounded on the way, as the reader takes them for floating point numbers; all else stays, and the
reader refuses what has a line separator in a name or text (`ofText?_toText_eq`). The numbers of a configuration that
was read are not changed (`stored_of_ofText?`). -/

namespace AttributeRules
open Json5.Numeral

/-! ### Numbers -/

/-- What a number of the settings is after it was saved and read. -/
def storedNumber (n : UInt64) : UInt64 := UInt64.ofNat (reread n.toNat)

theorem toNat_storedNumber (n : UInt64) : (storedNumber n).toNat = reread n.toNat :=
  UInt64.toNat_ofNat_of_lt' (Nat.lt_succ_of_le (Nat.min_le_right _ _))

theorem storedNumber_ne_zero {n : UInt64} (h : n ≠ 0) : storedNumber n ≠ 0 := by
  have hpos : 0 < n.toNat := Nat.pos_of_ne_zero fun hzero => h (UInt64.toNat_inj.mp hzero)
  intro hzero
  have hreread := reread_pos hpos
  rw [← toNat_storedNumber, hzero] at hreread
  exact absurd hreread (by decide)

theorem toUInt64?_number (n : UInt64) : (Json5.number (.ofInt n.toNat)).toUInt64? = some (storedNumber n) := by
  have hread := toUnsigned?_natural (Nat.le_of_lt_succ n.toNat_lt) true
  show ((Json5.Numeral.decimal .absent true n.toNat 0).toUnsigned?).map UInt64.ofNat = _
  rw [hread]
  rfl

/-- A number that was read is not changed by saving it. -/
theorem storedNumber_of_toUInt64? {j : Json5} {n : UInt64} (h : j.toUInt64? = some n) : storedNumber n = n := by
  match j with
  | .number n' =>
    obtain ⟨k, hk, rfl⟩ := Option.map_eq_some_iff.mp h
    have htoNat : (UInt64.ofNat k).toNat = k := UInt64.toNat_ofNat_of_lt' (Nat.lt_succ_of_le (toUnsigned?_le hk))
    rw [storedNumber, htoNat, reread_of_toUnsigned? hk]

theorem storedNumber_of_field? {fields : List (String × Json5)} {name : String} {d n : UInt64}
    (hd : storedNumber d = d) (h : Json5.field? Json5.toUInt64? fields name d = some n) : storedNumber n = n := by
  unfold Json5.field? at h
  split at h
  · cases h
    exact hd
  · exact storedNumber_of_toUInt64? h

/-! ### Settings -/

namespace Settings

/-- What the settings are after they were saved and read. -/
def stored (s : Settings) : Settings :=
  { s with maxDepth := storedNumber s.maxDepth, suggestionThreshold := storedNumber s.suggestionThreshold }

/-- The settings as JSON5 has them when they were saved. -/
def toJson5 (s : Settings) : Json5 :=
  .object
    [(some "max_depth", .number (.ofInt s.maxDepth.toNat)), (some "default_op", .text (some s.defaultOp)),
      (some "suggestion_threshold", .number (.ofInt s.suggestionThreshold.toNat))]

theorem value_toJson (s : Settings) :
    Json5.meaning.value s.toJson = if Json5.Unbroken s.defaultOp then some s.toJson5 else none := by
  have hname : ∀ name ∈ ["max_depth", "default_op", "suggestion_threshold"],
      Json5.meaning.name name = some (some name) := by
    decide +kernel
  rw [toJson, Json.Meaning.value]
  simp only [Json.Meaning.members, hname, List.mem_cons, true_or, or_true, Option.bind_some, Json.count,
    Json.Meaning.value]
  by_cases h : Json5.Unbroken s.defaultOp
  · simp only [Json5.meaning, if_pos h]
    rfl
  · simp only [Json5.meaning, if_neg h]
    rfl

theorem ofJson5?_toJson5 (s : Settings) : Settings.ofJson5? s.toJson5 = some s.stored := by
  have hdepth := toUInt64?_number s.maxDepth
  have hthreshold := toUInt64?_number s.suggestionThreshold
  have hfields : s.toJson5.fields? ["max_depth", "default_op", "suggestion_threshold"] =
      some [("max_depth", .number (.ofInt s.maxDepth.toNat)), ("default_op", .text (some s.defaultOp)),
        ("suggestion_threshold", .number (.ofInt s.suggestionThreshold.toNat))] := rfl
  rw [Settings.ofJson5?, hfields]
  show (Json5.toUInt64? (.number (.ofInt s.maxDepth.toNat))).bind (fun maxDepth =>
    (Json5.toUInt64? (.number (.ofInt s.suggestionThreshold.toNat))).bind fun suggestionThreshold =>
      some (Settings.mk maxDepth s.defaultOp suggestionThreshold)) = _
  rw [hdepth, hthreshold]
  rfl

theorem stored_default : stored {} = {} := by
  decide +kernel

theorem stored_of_ofJson5? {j : Json5} {s : Settings} (h : Settings.ofJson5? j = some s) : s.stored = s := by
  obtain ⟨fields, -, h⟩ := Option.bind_eq_some_iff.mp h
  obtain ⟨maxDepth, hdepth, h⟩ := Option.bind_eq_some_iff.mp h
  obtain ⟨defaultOp, -, h⟩ := Option.bind_eq_some_iff.mp h
  obtain ⟨threshold, hthreshold, h⟩ := Option.bind_eq_some_iff.mp h
  cases h
  have hdefault := Settings.mk.inj stored_default
  rw [stored, storedNumber_of_field? hdefault.1 hdepth, storedNumber_of_field? hdefault.2.2 hthreshold]

end Settings

/-! ### Configurations -/

namespace Config

/-- No line separator stands in a name or text of the configuration. -/
structure Unbroken (c : Config) : Prop where
  rules : ∀ e ∈ c.rules.entries, Json5.Unbroken e.1 ∧ Json5.Unbroken e.2
  defaultOp : Json5.Unbroken c.settings.defaultOp

/-- What a configuration is after it was saved and read. -/
def stored (c : Config) : Config := { c with settings := c.settings.stored }

instance (c : Config) : Decidable c.Unbroken :=
  have : Decidable (∀ e ∈ c.rules.entries, Json5.Unbroken e.1 ∧ Json5.Unbroken e.2) :=
    List.decidableBAll (fun e : String × String => Json5.Unbroken e.1 ∧ Json5.Unbroken e.2) c.rules.entries
  decidable_of_iff ((∀ e ∈ c.rules.entries, Json5.Unbroken e.1 ∧ Json5.Unbroken e.2) ∧
    Json5.Unbroken c.settings.defaultOp) ⟨fun h => ⟨h.1, h.2⟩, fun h => ⟨h.rules, h.defaultOp⟩⟩

/-- The rules as JSON5 has them when they were saved. -/
def textsToJson5 (es : List (String × String)) : List (Option String × Json5) :=
  es.map fun (name, text) => (some name, .text (some text))

/-- The configuration as JSON5 has it when it was saved. -/
def toJson5 (c : Config) : Json5 :=
  .object [(some "rules", .object (textsToJson5 c.rules.entries)), (some "settings", c.settings.toJson5)]

theorem members_texts (es : List (String × String)) :
    Json5.meaning.members (es.map fun (name, text) => (name, .text text)) =
      if ∀ e ∈ es, Json5.Unbroken e.1 ∧ Json5.Unbroken e.2 then some (textsToJson5 es) else none := by
  induction es with
  | nil => rfl
  | cons e es ih =>
    obtain ⟨name, text⟩ := e
    rw [List.map_cons, Json.Meaning.members_cons, ih]
    simp only [Json5.meaning, Json.Meaning.value, List.forall_mem_cons]
    by_cases hname : Json5.Unbroken name
    · by_cases htext : Json5.Unbroken text
      · by_cases hes : ∀ e ∈ es, Json5.Unbroken e.1 ∧ Json5.Unbroken e.2
        · simp only [if_pos hname, if_pos htext, if_pos hes, if_pos (And.intro (And.intro hname htext) hes)]
          rfl
        · simp only [if_pos hname, if_pos htext, if_neg hes, if_neg fun h => hes (And.right h)]
          rfl
      · simp only [if_pos hname, if_neg htext, if_neg fun h => htext (And.right (And.left h))]
        rfl
    · simp only [if_neg hname, if_neg fun h => hname (And.left (And.left h))]
      rfl

theorem value_toJson (c : Config) : Json5.meaning.value c.toJson = if c.Unbroken then some c.toJson5 else none := by
  have hname : ∀ name ∈ ["rules", "settings"], Json5.meaning.name name = some (some name) := by
    decide +kernel
  rw [toJson, Json.Meaning.value]
  simp only [Json.Meaning.members, hname, List.mem_cons, true_or, or_true, Option.bind_some, Json.Meaning.value,
    members_texts, Settings.value_toJson]
  by_cases hrules : ∀ e ∈ c.rules.entries, Json5.Unbroken e.1 ∧ Json5.Unbroken e.2
  · by_cases hop : Json5.Unbroken c.settings.defaultOp
    · rw [if_pos hrules, if_pos hop, if_pos ⟨hrules, hop⟩]
      rfl
    · rw [if_pos hrules, if_neg hop, if_neg fun h => hop h.defaultOp]
      rfl
  · have hbroken : ¬ c.Unbroken := fun h => hrules h.rules
    rw [if_neg hrules, if_neg hbroken]
    rfl

theorem mapM_toText?_texts (es : List (String × String)) :
    (textsToJson5 es).mapM (fun (name, value) => do
      return (← name, ← value.toText?) : Option String × Json5 → Option (String × String)) = some es := by
  induction es with
  | nil => rfl
  | cons e rest ih =>
    rw [textsToJson5, List.map_cons, List.mapM_cons, ← textsToJson5, ih]
    rfl

theorem toTexts?_texts (m : NameMap String) : (Json5.object (textsToJson5 m.entries)).toTexts? = some m := by
  rw [Json5.toTexts?, mapM_toText?_texts]
  show some (NameMap.ofList m.entries) = _
  rw [NameMap.ofList_of_perm (.refl _)]

theorem ofJson5?_toJson5 (c : Config) : Config.ofJson5? c.toJson5 = some c.stored := by
  have hrules := toTexts?_texts c.rules
  have hsettings := c.settings.ofJson5?_toJson5
  have hfields : c.toJson5.fields? ["rules", "settings"] =
      some [("rules", .object (textsToJson5 c.rules.entries)), ("settings", c.settings.toJson5)] := rfl
  rw [Config.ofJson5?, hfields]
  show (Json5.toTexts? (.object _)).bind (fun rules => (Settings.ofJson5? _).bind fun settings =>
    some (Config.mk rules settings)) = _
  rw [hrules, hsettings]
  rfl

/-- A configuration can be read after it was saved if it has no line separators; only its numbers may be others. -/
theorem ofText?_toText_eq (c : Config) : ofText? c.toText = if c.Unbroken then some c.stored else none := by
  rw [ofText?, toText, Json5.ofText?_toPrettyText, value_toJson]
  by_cases h : c.Unbroken
  · rw [if_pos h, if_pos h]
    exact ofJson5?_toJson5 c
  · rw [if_neg h, if_neg h]
    rfl

theorem ofText?_toText {c : Config} (h : c.Unbroken) : ofText? c.toText = some c.stored := by
  rw [ofText?_toText_eq, if_pos h]

/-- Saving a configuration that was read does not change it. -/
theorem stored_of_ofText? {text : String} {c : Config} (h : Config.ofText? text = some c) : c.stored = c := by
  obtain ⟨j, -, h⟩ := Option.bind_eq_some_iff.mp h
  obtain ⟨fields, -, h⟩ := Option.bind_eq_some_iff.mp h
  obtain ⟨rules, -, h⟩ := Option.bind_eq_some_iff.mp h
  obtain ⟨settings, hsettings, h⟩ := Option.bind_eq_some_iff.mp h
  cases h
  have hstored : settings.stored = settings := by
    unfold Json5.field? at hsettings
    split at hsettings
    · cases hsettings
      exact Settings.stored_default
    · exact Settings.stored_of_ofJson5? hsettings
  rw [stored, hstored]

end Config
end AttributeRules
