import AttributeRules.Config.Edit
import AttributeRules.Proofs.Entries
import AttributeRules.Proofs.Numerals

/-! What a configuration holds under its keys.

A configuration is determined by what it holds under each key (`Config.ext_value?`). A value is set if a key accepts it,
and then the configuration holds what the value means under this key, and all else as before; else it comes back as it
was (`Config.set_cases`). So of many values that are set, the last accepted one counts under each key, and the order of
different keys does not matter. -/

namespace AttributeRules
open Text

/-- What stands under a key: the text of a rule or of the connective, or a number. -/
inductive ConfigValue
  | text (s : String)
  | number (n : UInt64)

namespace ConfigKey

/-- A key as it is written. -/
def text : ConfigKey → String
  | .rule name => "rules." ++ name
  | .maxDepth => "settings.max_depth"
  | .defaultOp => "settings.default_op"
  | .suggestionThreshold => "settings.suggestion_threshold"

/-- The key accepts a value, which means this. -/
inductive Accepts : ConfigKey → String → ConfigValue → Prop
  | rule {name : String} (hname : name ≠ "") (text : String) : Accepts (.rule name) text (.text text)
  | maxDepth {text : String} {n : UInt64} (hspells : SpellsNumber text.toList n.toNat) (hn : n ≠ 0) :
    Accepts .maxDepth text (.number n)
  | defaultOp (op : Connective) : Accepts .defaultOp op.keyword (.text op.keyword)
  | suggestionThreshold {text : String} {n : UInt64} (hspells : SpellsNumber text.toList n.toNat) :
    Accepts .suggestionThreshold text (.number n)

/-- A call, which gives a key and a value, sets what is held under this key. -/
def IsSetTo (k : ConfigKey) (call : String × String) (x : ConfigValue) : Prop := call.1 = k.text ∧ k.Accepts call.2 x

/-- A call does not set what is held under the key: it is for another key, or with a value that is not accepted. -/
def Refuses (k : ConfigKey) (call : String × String) : Prop := ∀ x, ¬ k.IsSetTo call x

/-- The last one of the calls that sets what is held under the key sets it to this. -/
def IsLastSetTo (k : ConfigKey) (calls : List (String × String)) (x : ConfigValue) : Prop :=
  ∃ before call after, calls = before ++ call :: after ∧ k.IsSetTo call x ∧ ∀ later ∈ after, k.Refuses later

/-! ### Keys -/

theorem toList_text_rule (name : String) :
    (rule name).text.toList = 'r' :: 'u' :: 'l' :: 'e' :: 's' :: '.' :: name.toList :=
  String.toList_append

theorem ofText?_rule {name : String} (hname : name ≠ "") : ofText? ("rules." ++ name) = some (.rule name) := by
  have hkey : ("rules." ++ name).toList = _ := toList_text_rule name
  have hne : ∀ key : String, key.toList.head? ≠ some 'r' → "rules." ++ name ≠ key := by
    rintro _ hhead rfl
    rw [hkey] at hhead
    exact hhead rfl
  rw [ofText?, if_neg (hne _ (by decide)), if_neg (hne _ (by decide)), if_neg (hne _ (by decide)), hkey]
  cases hchars : name.toList with
  | nil => exact absurd (String.toList_eq_nil_iff.mp hchars) hname
  | cons c rest =>
    show some (rule (String.ofList (c :: rest))) = some (rule name)
    rw [← hchars, String.ofList_toList]

theorem ofText?_text {k : ConfigKey} (h : k ≠ .rule "") : ofText? k.text = some k := by
  cases k with
  | rule name => exact ofText?_rule fun hname => h (by rw [hname])
  | _ => rfl

theorem eq_text_of_ofText? {key : String} {k : ConfigKey} (h : ofText? key = some k) : key = k.text ∧ k ≠ .rule "" := by
  unfold ofText? at h
  split at h
  · cases h
    exact ⟨‹_›, nofun⟩
  split at h
  · cases h
    exact ⟨‹_›, nofun⟩
  split at h
  · cases h
    exact ⟨‹_›, nofun⟩
  split at h
  · rename_i c rest hkey
    cases h
    refine ⟨String.toList_inj.mp ?_, fun heq => ?_⟩
    · rw [hkey, toList_text_rule, String.toList_ofList]
    · have hname := congrArg String.toList (ConfigKey.rule.inj heq)
      rw [String.toList_ofList] at hname
      cases hname
  · cases h

theorem Accepts.ne_rule_empty {k : ConfigKey} {value : String} {x : ConfigValue} (h : k.Accepts value x) :
    k ≠ .rule "" := by
  rintro rfl
  cases h
  contradiction

theorem exists_isLastSetTo_or_refuses (k : ConfigKey) (calls : List (String × String)) :
    (∃ x, k.IsLastSetTo calls x) ∨ ∀ call ∈ calls, k.Refuses call := by
  induction calls with
  | nil => exact .inr (List.forall_mem_nil _)
  | cons call rest ih =>
    rcases ih with ⟨x, before, last, after, rfl, hlast⟩ | hrest
    · exact .inl ⟨x, call :: before, last, after, rfl, hlast⟩
    · by_cases hset : ∃ x, k.IsSetTo call x
      · obtain ⟨x, hx⟩ := hset
        exact .inl ⟨x, [], call, rest, rfl, hx, hrest⟩
      · exact .inr (List.forall_mem_cons.mpr ⟨not_exists.mp hset, hrest⟩)

end ConfigKey

namespace Config

/-! ### What is held under a key -/

/-- What a configuration holds under a key, if anything. -/
def value? (c : Config) : ConfigKey → Option ConfigValue
  | .rule name => (c.rules.get? name).map .text
  | .maxDepth => some (.number c.settings.maxDepth)
  | .defaultOp => some (.text c.settings.defaultOp)
  | .suggestionThreshold => some (.number c.settings.suggestionThreshold)

/-- The configuration is changed under the key alone, where it holds this. -/
structure Changes (c : Config) (k : ConfigKey) (x : Option ConfigValue) (d : Config) : Prop where
  held : d.value? k = x
  kept : ∀ other, other ≠ k → d.value? other = c.value? other

theorem value?_rule_eq_some_iff {c : Config} {name text : String} :
    c.value? (.rule name) = some (.text text) ↔ c.rules.get? name = some text := by
  simp [value?]

theorem ext_value? {c d : Config} (h : ∀ k, c.value? k = d.value? k) : c = d := by
  have hrules : c.rules = d.rules := NameMap.ext_get? fun name => by
    have hname := h (.rule name)
    rw [value?, value?] at hname
    exact Option.map_injective (fun _ _ => ConfigValue.text.inj) hname
  have hdepth := ConfigValue.number.inj (Option.some.inj (h .maxDepth))
  have hop := ConfigValue.text.inj (Option.some.inj (h .defaultOp))
  have hthreshold := ConfigValue.number.inj (Option.some.inj (h .suggestionThreshold))
  obtain ⟨rules, depth, op, threshold⟩ := c
  obtain ⟨rules', depth', op', threshold'⟩ := d
  cases hrules
  cases hdepth
  cases hop
  cases hthreshold
  rfl

theorem Changes.unique {c d d' : Config} {k : ConfigKey} {x : Option ConfigValue} (h : c.Changes k x d)
    (h' : c.Changes k x d') : d = d' := by
  refine ext_value? fun other => ?_
  by_cases hother : other = k
  · rw [hother, h.held, h'.held]
  · rw [h.kept other hother, h'.kept other hother]

theorem Changes.comm {c d₁ d₂ e : Config} {k₁ k₂ : ConfigKey} {x₁ x₂ : Option ConfigValue} (h₁ : c.Changes k₁ x₁ d₁)
    (hne : k₁ ≠ k₂) (h₂ : c.Changes k₂ x₂ d₂) (h : d₁.Changes k₂ x₂ e) : d₂.Changes k₁ x₁ e where
  held := by rw [h.kept k₁ hne, h₁.held]
  kept other hother := by
    by_cases hk₂ : other = k₂
    · rw [hk₂, h.held, h₂.held]
    · rw [h.kept other hk₂, h₁.kept other hother, h₂.kept other hk₂]

/-! ### Setting a value -/

theorem readNumber_eq_ok_iff {value : String} {n : UInt64} :
    readNumber value = .ok n ↔ SpellsNumber value.toList n.toNat := by
  have hn : n.toNat ≤ 0xFFFFFFFFFFFFFFFF := Nat.le_of_lt_succ n.toNat_lt
  unfold readNumber
  constructor
  · intro h
    split at h
    · rename_i m hm
      cases h
      obtain ⟨hspells, hle⟩ := Text.readNumber_eq_ok_iff.mp hm
      rwa [UInt64.toNat_ofNat_of_lt' (Nat.lt_succ_of_le hle)]
    · cases h
  · intro h
    rw [Text.readNumber_eq_ok_iff.mpr ⟨h, hn⟩]
    simp only [UInt64.ofNat_toNat]

theorem changes_rules (c : Config) (name : String) (rules : NameMap String)
    (h : ∀ n, n ≠ name → rules.get? n = c.rules.get? n) :
    c.Changes (.rule name) ((rules.get? name).map .text) { c with rules := rules } where
  held := rfl
  kept other hother := by
    cases other with
    | rule n =>
      have hn : n ≠ name := fun heq => hother (by rw [heq])
      rw [value?, value?, h n hn]
    | _ => rfl

theorem changes_insert (c : Config) (name value : String) :
    c.Changes (.rule name) (some (.text value)) { c with rules := c.rules.insert name value } := by
  have h := c.changes_rules name (c.rules.insert name value) fun n hn => NameMap.get?_insert_of_ne hn c.rules value
  rwa [NameMap.get?_insert_self] at h

theorem changes_maxDepth (c : Config) (n : UInt64) :
    c.Changes .maxDepth (some (.number n)) { c with settings := { c.settings with maxDepth := n } } where
  held := rfl
  kept other hother := by
    cases other with
    | maxDepth => exact absurd rfl hother
    | _ => rfl

theorem changes_defaultOp (c : Config) (s : String) :
    c.Changes .defaultOp (some (.text s)) { c with settings := { c.settings with defaultOp := s } } where
  held := rfl
  kept other hother := by
    cases other with
    | defaultOp => exact absurd rfl hother
    | _ => rfl

theorem changes_suggestionThreshold (c : Config) (n : UInt64) :
    c.Changes .suggestionThreshold (some (.number n))
      { c with settings := { c.settings with suggestionThreshold := n } } where
  held := rfl
  kept other hother := by
    cases other with
    | suggestionThreshold => exact absurd rfl hother
    | _ => rfl

theorem exists_set {k : ConfigKey} {value : String} {x : ConfigValue} (c : Config) (h : k.Accepts value x) :
    ∃ d, c.set k.text value = (.ok (), d) ∧ c.Changes k (some x) d := by
  have hset : c.set k.text value = c.setAt value k := by
    rw [set, ConfigKey.ofText?_text h.ne_rule_empty]
  rw [hset]
  cases h with
  | rule => exact ⟨_, rfl, c.changes_insert _ value⟩
  | maxDepth hspells hn =>
    refine ⟨_, ?_, c.changes_maxDepth _⟩
    simp only [setAt, readNumber_eq_ok_iff.mpr hspells, if_neg hn]
  | defaultOp op =>
    refine ⟨_, ?_, c.changes_defaultOp op.keyword⟩
    simp only [setAt, Connective.ofText, Connective.ofText?_keyword]
  | suggestionThreshold hspells =>
    refine ⟨_, ?_, c.changes_suggestionThreshold _⟩
    simp only [setAt, readNumber_eq_ok_iff.mpr hspells]

/-- A key accepts a value, or the value is refused and the configuration comes back as it was. -/
theorem setAt_cases (c : Config) {k : ConfigKey} (hk : k ≠ .rule "") (value : String) :
    (∃ x, k.Accepts value x) ∨ ∃ e, c.setAt value k = (.error e, c) := by
  cases k with
  | rule name => exact .inl ⟨_, .rule (fun hname => hk (by rw [hname])) value⟩
  | maxDepth =>
    cases hread : readNumber value with
    | error e => exact .inr ⟨e, by simp only [setAt, hread]⟩
    | ok n =>
      by_cases hn : n = 0
      · exact .inr ⟨.zeroDepth, by simp only [setAt, hread, if_pos hn]⟩
      · exact .inl ⟨_, .maxDepth (readNumber_eq_ok_iff.mp hread) hn⟩
  | defaultOp =>
    cases hop : Connective.ofText? value with
    | none => exact .inr ⟨_, by simp only [setAt, Connective.ofText, hop]; rfl⟩
    | some op =>
      rw [Connective.ofText?_eq_some_iff.mp hop]
      exact .inl ⟨_, .defaultOp op⟩
  | suggestionThreshold =>
    cases hread : readNumber value with
    | error e => exact .inr ⟨e, by simp only [setAt, hread]⟩
    | ok n => exact .inl ⟨_, .suggestionThreshold (readNumber_eq_ok_iff.mp hread)⟩

/-- A value is set if a key accepts it, and then the configuration is changed under this key alone; else it comes back as
it was. -/
theorem set_cases (c : Config) (key value : String) :
    (∃ k x d, ConfigKey.IsSetTo k (key, value) x ∧ c.set key value = (.ok (), d) ∧ c.Changes k (some x) d) ∨
      ∃ e, c.set key value = (.error e, c) := by
  cases hkey : ConfigKey.ofText? key with
  | none => exact .inr ⟨.unknownKey key, by rw [set, hkey]⟩
  | some k =>
    obtain ⟨rfl, hk⟩ := ConfigKey.eq_text_of_ofText? hkey
    rcases c.setAt_cases hk value with ⟨x, haccepts⟩ | ⟨e, hrefused⟩
    · obtain ⟨d, hset, hchanges⟩ := c.exists_set haccepts
      exact .inl ⟨k, x, d, ⟨rfl, haccepts⟩, hset, hchanges⟩
    · exact .inr ⟨e, by rw [set, hkey]; exact hrefused⟩

theorem set_eq_ok_iff {c d : Config} {key value : String} :
    c.set key value = (.ok (), d) ↔ ∃ k x, ConfigKey.IsSetTo k (key, value) x ∧ c.Changes k (some x) d := by
  constructor
  · intro h
    rcases c.set_cases key value with ⟨k, x, d', hset, hok, hchanges⟩ | ⟨e, hrefused⟩
    · rw [hok] at h
      cases h
      exact ⟨k, x, hset, hchanges⟩
    · rw [hrefused] at h
      cases h
  · rintro ⟨k, x, ⟨rfl, haccepts⟩, hchanges⟩
    obtain ⟨d', hset, hchanges'⟩ := c.exists_set haccepts
    rw [hset, hchanges.unique hchanges']

theorem isSet_iff {c : Config} {key value : String} :
    (c.set key value).1 = .ok () ↔ ∃ k x, ConfigKey.IsSetTo k (key, value) x := by
  constructor
  · intro h
    obtain ⟨k, x, hset, -⟩ := set_eq_ok_iff.mp (Prod.ext h rfl)
    exact ⟨k, x, hset⟩
  · rintro ⟨k, x, rfl, haccepts⟩
    obtain ⟨d, h, -⟩ := c.exists_set haccepts
    rw [h]

theorem eq_of_set_error {c d : Config} {key value : String} {e : EditError} (h : c.set key value = (.error e, d)) :
    d = c := by
  rcases c.set_cases key value with ⟨k, x, d', -, hok, -⟩ | ⟨e', hrefused⟩
  · rw [hok] at h
    cases h
  · rw [hrefused] at h
    cases h
    rfl

theorem exists_set_comm {c d₁ d₂ : Config} {key₁ key₂ value₁ value₂ : String} (hne : key₁ ≠ key₂)
    (h₁ : c.set key₁ value₁ = (.ok (), d₁)) (h₂ : c.set key₂ value₂ = (.ok (), d₂)) :
    ∃ e, d₁.set key₂ value₂ = (.ok (), e) ∧ d₂.set key₁ value₁ = (.ok (), e) := by
  obtain ⟨k₁, x₁, hset₁, hchanges₁⟩ := set_eq_ok_iff.mp h₁
  obtain ⟨k₂, x₂, ⟨rfl, haccepts₂⟩, hchanges₂⟩ := set_eq_ok_iff.mp h₂
  have hk : k₁ ≠ k₂ := by
    rintro rfl
    exact hne hset₁.1
  -- Whether the second key accepts its value does not depend on the configuration, so it is set after the first one too.
  obtain ⟨e, he, hchanges⟩ := d₁.exists_set haccepts₂
  exact ⟨e, he, set_eq_ok_iff.mpr ⟨k₁, x₁, hset₁, hchanges₁.comm hk hchanges₂ hchanges⟩⟩

/-! ### Setting one value after another -/

/-- The configuration after one call. -/
def afterSet (c : Config) (call : String × String) : Config := (c.set call.1 call.2).2

/-- The configuration after calls, one after another. -/
def afterSets (c : Config) (calls : List (String × String)) : Config := calls.foldl afterSet c

variable {k : ConfigKey} {call : String × String} {calls : List (String × String)} {x : ConfigValue}

theorem value?_afterSet_of_isSetTo (c : Config) (h : k.IsSetTo call x) : (c.afterSet call).value? k = some x := by
  obtain ⟨d, hset, hchanges⟩ := c.exists_set h.2
  rw [afterSet, h.1, hset]
  exact hchanges.held

theorem value?_afterSet_of_refuses (c : Config) (h : k.Refuses call) : (c.afterSet call).value? k = c.value? k := by
  rw [afterSet]
  rcases c.set_cases call.1 call.2 with ⟨k', x, d, hset, hok, hchanges⟩ | ⟨e, hrefused⟩
  · rw [hok]
    refine hchanges.kept k ?_
    rintro rfl
    exact h x hset
  · rw [hrefused]

theorem value?_afterSets_of_refuses (c : Config) (h : ∀ call ∈ calls, k.Refuses call) :
    (c.afterSets calls).value? k = c.value? k := by
  induction calls generalizing c with
  | nil => rfl
  | cons call rest ih =>
    obtain ⟨hcall, hrest⟩ := List.forall_mem_cons.mp h
    calc ((c.afterSet call).afterSets rest).value? k
        = (c.afterSet call).value? k := ih (c.afterSet call) hrest
      _ = c.value? k := c.value?_afterSet_of_refuses hcall

theorem value?_afterSets_of_isLastSetTo (c : Config) (h : k.IsLastSetTo calls x) :
    (c.afterSets calls).value? k = some x := by
  obtain ⟨before, last, after, rfl, hset, hafter⟩ := h
  have hsplit : c.afterSets (before ++ last :: after) = ((c.afterSets before).afterSet last).afterSets after :=
    List.foldl_append
  rw [hsplit, value?_afterSets_of_refuses _ hafter, value?_afterSet_of_isSetTo _ hset]

theorem afterSets_eq_of_isLastSetTo_iff {calls' : List (String × String)} (c : Config)
    (h : ∀ (k : ConfigKey) (x : ConfigValue), k.IsLastSetTo calls x ↔ k.IsLastSetTo calls' x) :
    c.afterSets calls = c.afterSets calls' := by
  refine ext_value? fun k => ?_
  rcases k.exists_isLastSetTo_or_refuses calls with ⟨x, hlast⟩ | hrefuses
  · rw [value?_afterSets_of_isLastSetTo c hlast, value?_afterSets_of_isLastSetTo c ((h k x).mp hlast)]
  rcases k.exists_isLastSetTo_or_refuses calls' with ⟨x, hlast'⟩ | hrefuses'
  · rw [value?_afterSets_of_isLastSetTo c ((h k x).mpr hlast'), value?_afterSets_of_isLastSetTo c hlast']
  · rw [value?_afterSets_of_refuses c hrefuses, value?_afterSets_of_refuses c hrefuses']

/-! ### Taking a rule out -/

theorem changes_erase (c : Config) (name : String) :
    c.Changes (.rule name) none { c with rules := c.rules.erase name } := by
  have h := c.changes_rules name (c.rules.erase name) fun n hn => by rw [NameMap.get?_erase, if_neg hn]
  rwa [NameMap.get?_erase, if_pos rfl] at h

/-- The rule with a name is taken out, and only it; without such a rule the configuration comes back as it was. -/
theorem remove_cases (c : Config) (name : String) :
    (∃ text d, c.rules.get? name = some text ∧ c.remove name = (.ok text, d) ∧ c.Changes (.rule name) none d) ∨
      c.rules.get? name = none ∧ c.remove name = (.error (c.unknownRule name), c) := by
  cases hget : c.rules.get? name with
  | some text => exact .inl ⟨text, _, rfl, by simp only [remove, NameMap.take, hget], c.changes_erase name⟩
  | none =>
    have herase : c.rules.erase name = c.rules := NameMap.erase_eq_self hget
    exact .inr ⟨rfl, by simp only [remove, NameMap.take, hget, herase]⟩

theorem remove_eq_ok_iff {c d : Config} {name text : String} :
    c.remove name = (.ok text, d) ↔ c.rules.get? name = some text ∧ c.Changes (.rule name) none d := by
  rcases c.remove_cases name with ⟨found, d', hget, hremove, hchanges⟩ | ⟨hget, hremove⟩
  · rw [hremove, hget, Prod.mk.injEq, Except.ok.injEq, Option.some.injEq]
    refine and_congr_right fun _ => ⟨?_, hchanges.unique⟩
    rintro rfl
    exact hchanges
  · rw [hremove, hget]
    exact iff_of_false nofun fun h => nomatch h.1

theorem isRemoved_iff {c : Config} {name : String} :
    (∃ text, (c.remove name).1 = .ok text) ↔ name ∈ c.rules.names := by
  rw [NameMap.mem_names_iff]
  refine exists_congr fun text => ⟨fun h => (remove_eq_ok_iff.mp (Prod.ext h rfl)).1, fun h => ?_⟩
  rw [remove_eq_ok_iff.mpr ⟨h, c.changes_erase name⟩]

theorem remove_eq_error {c d : Config} {name : String} {u : UnknownRule} (h : c.remove name = (.error u, d)) :
    u = c.unknownRule name ∧ d = c := by
  rcases c.remove_cases name with ⟨text, d', -, hremove, -⟩ | ⟨-, hremove⟩
  · rw [hremove] at h
    cases h
  · rw [hremove] at h
    cases h
    exact ⟨rfl, rfl⟩

theorem remove_of_set {c d : Config} {name value : String} (hname : c.rules.get? name = none)
    (h : c.set ("rules." ++ name) value = (.ok (), d)) : d.remove name = (.ok value, c) := by
  by_cases hempty : name = ""
  · subst hempty
    have hkey : ConfigKey.ofText? ("rules." ++ "") = none := by decide
    rw [set, hkey] at h
    cases h
  · obtain ⟨d', hset, hchanges⟩ := c.exists_set (.rule hempty value)
    obtain rfl : d' = d := congrArg Prod.snd (hset.symm.trans h)
    -- The configuration as it was is changed from the new one under the name alone.
    refine remove_eq_ok_iff.mpr ⟨value?_rule_eq_some_iff.mp hchanges.held, ?_, fun other hother => ?_⟩
    · rw [value?, hname, Option.map_none]
    · rw [hchanges.kept other hother]

/-! ### All changes by key and by name -/

/-- How a configuration is changed by setting values. -/
structure SetsByKey (c : Config) : Prop where
  /-- A value is set exactly if a key accepts it, whatever the configuration. -/
  isSet_iff (key value : String) :
    (c.set key value).1 = .ok () ↔ ∃ k x, key = ConfigKey.text k ∧ k.Accepts value x
  /-- What is set stands under the key, and all else is as before. -/
  changes {k : ConfigKey} {value : String} {x : ConfigValue} {d : Config} :
    k.Accepts value x → c.set k.text value = (.ok (), d) →
      d.value? k = some x ∧ ∀ other, other ≠ k → d.value? other = c.value? other
  /-- From a call with a value that is refused, the configuration comes back as it was. -/
  refused {key value : String} {e : EditError} {d : Config} : c.set key value = (.error e, d) → d = c
  /-- Of many calls, the last accepted one for a key counts. -/
  last {calls : List (String × String)} {k : ConfigKey} {x : ConfigValue} :
    k.IsLastSetTo calls x → (c.afterSets calls).value? k = some x
  /-- Without an accepted call for a key, what stands under it is as before. -/
  untouched {calls : List (String × String)} {k : ConfigKey} :
    (∀ call ∈ calls, k.Refuses call) → (c.afterSets calls).value? k = c.value? k
  /-- The last accepted calls determine the configuration. -/
  determined {calls calls' : List (String × String)} :
    (∀ (k : ConfigKey) (x : ConfigValue), k.IsLastSetTo calls x ↔ k.IsLastSetTo calls' x) →
      c.afterSets calls = c.afterSets calls'
  /-- Accepted calls for different keys can be made in either order. -/
  comm {key₁ key₂ value₁ value₂ : String} {d₁ d₂ : Config} :
    key₁ ≠ key₂ → c.set key₁ value₁ = (.ok (), d₁) → c.set key₂ value₂ = (.ok (), d₂) →
      ∃ e, d₁.set key₂ value₂ = (.ok (), e) ∧ d₂.set key₁ value₁ = (.ok (), e)

/-- How a configuration is changed by taking rules out. -/
structure RemovesByName (c : Config) : Prop where
  /-- The names that are defined can be taken out. -/
  isRemoved_iff (name : String) : (∃ text, (c.remove name).1 = .ok text) ↔ name ∈ c.rules.names
  /-- The text of the rule is given back, which is then missing, and all else is as before. -/
  changes {name text : String} {d : Config} :
    c.remove name = (.ok text, d) → c.rules.get? name = some text ∧ d.rules.get? name = none ∧
      ∀ other, other ≠ .rule name → d.value? other = c.value? other
  /-- Without such a rule, the configuration comes back as it was, and names in it are suggested. -/
  refused {name : String} {u : UnknownRule} {d : Config} :
    c.remove name = (.error u, d) → u = c.unknownRule name ∧ d = c
  /-- A rule that was set anew and is taken out leaves no trace. -/
  restores {name value : String} {d : Config} :
    c.rules.get? name = none → c.set ("rules." ++ name) value = (.ok (), d) → d.remove name = (.ok value, c)

theorem setsByKey (c : Config) : c.SetsByKey where
  isSet_iff _ _ := isSet_iff
  changes haccepts h := by
    obtain ⟨d', hset, hchanges⟩ := c.exists_set haccepts
    obtain rfl : d' = _ := congrArg Prod.snd (hset.symm.trans h)
    exact ⟨hchanges.held, hchanges.kept⟩
  refused := eq_of_set_error
  last := c.value?_afterSets_of_isLastSetTo
  untouched := c.value?_afterSets_of_refuses
  determined := c.afterSets_eq_of_isLastSetTo_iff
  comm := exists_set_comm

theorem removesByName (c : Config) : c.RemovesByName where
  isRemoved_iff _ := isRemoved_iff
  changes h := by
    obtain ⟨hget, hchanges⟩ := remove_eq_ok_iff.mp h
    exact ⟨hget, Option.map_eq_none_iff.mp hchanges.held, hchanges.kept⟩
  refused := remove_eq_error
  restores := remove_of_set

/-- Setting a value and taking out a rule change the configuration under one key, or not at all. -/
theorem setsByKey_and_removesByName (c : Config) : c.SetsByKey ∧ c.RemovesByName := ⟨c.setsByKey, c.removesByName⟩

/-- A rule whose name has a dot is set and taken out again. A depth with a sign and zeros is set, and then one that is
too large is refused. -/
theorem set_dotted_name_and_depths :
    (∃ d, Config.default.set "rules.a.b" "x = 1" = (.ok (), d) ∧ d.value? (.rule "a.b") = some (.text "x = 1") ∧
      d.remove "a.b" = (.ok "x = 1", Config.default)) ∧
      (Config.default.afterSets [("settings.max_depth", "+0064"), ("settings.max_depth", "18446744073709551616")]).value?
        .maxDepth = some (.number 64) := by
  obtain ⟨hsets, hremoves⟩ := setsByKey_and_removesByName Config.default
  have hrule : ConfigKey.Accepts (.rule "a.b") "x = 1" (.text "x = 1") := .rule (by decide) _
  have hdepth : ConfigKey.Accepts .maxDepth "+0064" (.number 64) := .maxDepth (readNumber_eq_ok_iff.mp rfl) (by decide)
  constructor
  · have hset := (hsets.isSet_iff "rules.a.b" "x = 1").mpr ⟨_, _, rfl, hrule⟩
    obtain ⟨d, hd⟩ : ∃ d, Config.default.set "rules.a.b" "x = 1" = (.ok (), d) := ⟨_, Prod.ext hset rfl⟩
    exact ⟨d, hd, (hsets.changes hrule hd).1, hremoves.restores rfl hd⟩
  · refine hsets.last ⟨[], _, _, rfl, ⟨rfl, hdepth⟩, List.forall_mem_singleton.mpr fun x hx => ?_⟩
    cases hx.2 with
    | maxDepth hspells =>
      have hread := readNumber_eq_ok_iff.mpr hspells
      cases hread

end Config
end AttributeRules
