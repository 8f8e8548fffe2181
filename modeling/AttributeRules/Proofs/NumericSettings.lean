import AttributeRules.Proofs.Numerals
import AttributeRules.Proofs.SavedFiles

/-! The settings that are numbers.

A number is stored digit by digit and read as a floating point number, so it is read as it was set exactly when it has
no more than 53 bits in front of its zeros, or is the largest unsigned number (`storedNumber_eq_self_iff`). All else of
a configuration that was loaded stays as it is when a number is set (`NumericSetting.stored_put`). -/

namespace AttributeRules
open Json5.Numeral Command

/-! ### Numbers that are read as they were written -/

namespace Binary64

theorem exact_nearest (n : Nat) : Exact (nearest n) := by
  refine ⟨roundQuotient n (2 ^ spareBits n), spareBits n, roundQuotient_le_of_lt ?_, rfl⟩
  calc n < 2 ^ (n.log2 + 1) := Nat.lt_log2_self
    _ ≤ 2 ^ (53 + spareBits n) := Nat.pow_le_pow_right (by decide) (by rw [spareBits]; omega)
    _ = 2 ^ 53 * 2 ^ spareBits n := Nat.pow_add 2 53 _

end Binary64

theorem Json5.Numeral.reread_eq_self_iff {n : Nat} (h : n ≤ maxUnsigned) :
    reread n = n ↔ Binary64.Exact n ∨ n = maxUnsigned := by
  constructor
  · intro hself
    rcases Nat.le_total (Binary64.nearest n) maxUnsigned with hle | hge
    · rw [reread, Nat.min_eq_left hle] at hself
      exact .inl (hself ▸ Binary64.exact_nearest n)
    · rw [reread, Nat.min_eq_right hge] at hself
      exact .inr hself.symm
  · rintro (hexact | rfl)
    · rw [reread, Binary64.nearest_of_exact hexact, Nat.min_eq_left h]
    · decide +kernel

theorem storedNumber_eq_self_iff {n : UInt64} :
    storedNumber n = n ↔ Binary64.Exact n.toNat ∨ n.toNat = maxUnsigned := by
  rw [← UInt64.toNat_inj, toNat_storedNumber]
  exact reread_eq_self_iff (Nat.le_of_lt_succ n.toNat_lt)

/-! ### Setting a number -/

/-- The two settings that are numbers. -/
inductive NumericSetting
  | maxDepth
  | suggestionThreshold

namespace NumericSetting

def key : NumericSetting → String
  | .maxDepth => "settings.max_depth"
  | .suggestionThreshold => "settings.suggestion_threshold"

/-- A configuration in which only the setting is changed. -/
def put (c : Config) (n : UInt64) : NumericSetting → Config
  | .maxDepth => { c with settings := { c.settings with maxDepth := n } }
  | .suggestionThreshold => { c with settings := { c.settings with suggestionThreshold := n } }

variable {s : NumericSetting} {c saved : Config} {n m : UInt64}

theorem put_inj (h : s.put c n = s.put c m) : n = m := by
  cases s with
  | maxDepth => exact congrArg (·.settings.maxDepth) h
  | suggestionThreshold => exact congrArg (·.settings.suggestionThreshold) h

theorem unbroken_put_iff : (s.put c n).Unbroken ↔ c.Unbroken := by
  cases s <;> exact ⟨fun h => ⟨h.rules, h.defaultOp⟩, fun h => ⟨h.rules, h.defaultOp⟩⟩

/-- Saving rounds the number that was set, and no other that was loaded. -/
theorem stored_put (hc : c.stored = c) : (s.put c n).stored = s.put c (storedNumber n) := by
  have hdepth : storedNumber c.settings.maxDepth = c.settings.maxDepth := congrArg (·.settings.maxDepth) hc
  have hthreshold : storedNumber c.settings.suggestionThreshold = c.settings.suggestionThreshold :=
    congrArg (·.settings.suggestionThreshold) hc
  cases s with
  | maxDepth => simp only [put, Config.stored, Settings.stored, hthreshold]
  | suggestionThreshold => simp only [put, Config.stored, Settings.stored, hdepth]

theorem eq_put_of_change {value : String} (hvalue : Config.readNumber value = .ok n)
    (h : (change c s.key value).outcome = .ok saved) : saved = s.put c n := by
  obtain ⟨hset, -⟩ := Config.change_eq_ok_iff.mp h
  cases s with
  | maxDepth =>
    have hkey : ConfigKey.ofText? (key .maxDepth) = some .maxDepth := rfl
    simp only [Config.set, hkey, Config.setAt, hvalue] at hset
    split at hset
    · cases hset
    · cases hset
      rfl
  | suggestionThreshold =>
    have hkey : ConfigKey.ofText? (key .suggestionThreshold) = some .suggestionThreshold := rfl
    simp only [Config.set, hkey, Config.setAt, hvalue] at hset
    cases hset
    rfl

/-- The numeral of a number, as a command is given it. -/
def numeral (n : UInt64) : String := String.ofList (Text.numeral n.toNat)

theorem readNumber_numeral (n : UInt64) : Config.readNumber (numeral n) = .ok n := by
  have hread : Text.readNumber 0xFFFFFFFFFFFFFFFF (Text.numeral n.toNat) = .ok n.toNat :=
    Text.readNumber_numeral (Nat.le_of_lt_succ n.toNat_lt)
  rw [Config.readNumber, numeral, String.toList_ofList, hread]
  simp only [UInt64.ofNat_toNat]

/-- A number that was set is loaded as it is stored. The loaded configuration is the one before with the number in it
exactly when the number is one that is read as it was written, and no line separator stands in the configuration. -/
theorem load_set_numeral (s : NumericSetting) {lib : Libraries} {mode : OutputMode} {fs : FileSystem} {path : Path}
    (hload : Config.load fs path = .ok c) (n : UInt64)
    (hexit : (run lib mode (some path) fs (.config (.set s.key (numeral n)))).exitCode = 0) :
    let after := (run lib mode (some path) fs (.config (.set s.key (numeral n)))).files
    Config.load after path =
        (if c.Unbroken then .ok (s.put c (storedNumber n)) else .error (.malformed path (s.put c n).toText)) ∧
      (Config.load after path = .ok (s.put c n) ↔
        c.Unbroken ∧ (Binary64.Exact n.toNat ∨ n.toNat = maxUnsigned)) := by
  intro after
  obtain ⟨saved, hchange, hfind⟩ := exists_change_of_exitCode hload hexit
  obtain rfl := eq_put_of_change (readNumber_numeral n) hchange
  have hafter : Config.load after path = _ := Config.load_of_find_toText hfind
  simp only [unbroken_put_iff, stored_put (Config.stored_of_load hload)] at hafter
  refine ⟨hafter, ?_⟩
  rw [hafter, ← storedNumber_eq_self_iff]
  constructor
  · intro hsame
    split at hsame
    · rename_i hunbroken
      exact ⟨hunbroken, put_inj (Except.ok.inj hsame)⟩
    · cases hsame
  · rintro ⟨hunbroken, hself⟩
    rw [if_pos hunbroken, hself]

/-- The largest number is loaded as it was set, beside a threshold with a zero behind its 53 bits. -/
theorem load_set_largest :
    ∃ fs : FileSystem, fs.read "c.json" = .ok "[\x7br: 'a = 1'\x7d, [4, 'OR', 18014398509481982]]" ∧
      (run .plain .text (some "c.json") fs
        (.config (.set "settings.max_depth" "18446744073709551615"))).exitCode = 0 ∧
      Config.load (run .plain .text (some "c.json") fs
          (.config (.set "settings.max_depth" "18446744073709551615"))).files "c.json" =
        .ok { rules := NameMap.ofList [("r", "a = 1")],
              settings := ⟨18446744073709551615, "OR", 18014398509481982⟩ } := by
  let fs : FileSystem := ⟨[(["c.json"], .file "[\x7br: 'a = 1'\x7d, [4, 'OR', 18014398509481982]]")]⟩
  let c : Config := { rules := NameMap.ofList [("r", "a = 1")], settings := ⟨4, "OR", 18014398509481982⟩ }
  have hload : Config.load fs "c.json" = .ok c := by decide +kernel
  have hexit : (run .plain .text (some "c.json") fs
      (.config (.set "settings.max_depth" "18446744073709551615"))).exitCode = 0 := by
    decide +kernel
  have hnumeral : numeral 18446744073709551615 = "18446744073709551615" := by decide +kernel
  have hset := @load_set_numeral c .maxDepth .plain .text fs "c.json" hload 18446744073709551615
  rw [hnumeral, key] at hset
  exact ⟨fs, by decide +kernel, hexit, (hset hexit).2.mpr ⟨by decide +kernel, .inr rfl⟩⟩

/-- One more than two to the 53 is loaded as two to the 53. -/
theorem load_set_rounded :
    (run .plain .text (some "c.json") {} (.config (.set "settings.max_depth" "9007199254740993"))).exitCode = 0 ∧
      Config.load (run .plain .text (some "c.json") {}
          (.config (.set "settings.max_depth" "9007199254740993"))).files "c.json" =
        .ok (put Config.default 9007199254740992 .maxDepth) ∧
      put Config.default 9007199254740992 .maxDepth ≠ put Config.default 9007199254740993 .maxDepth := by
  decide +kernel

end NumericSetting
end AttributeRules
