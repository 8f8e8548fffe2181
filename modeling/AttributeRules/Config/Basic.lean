import AttributeRules.Json.Printer
import AttributeRules.NameMap

/-! Configurations: named rules and settings, and their JSON form, which is also what is saved. -/

namespace AttributeRules

/-- The settings of a configuration. The connective is kept as it was written, even if it is none. -/
structure Settings where
  maxDepth : UInt64 := 256
  defaultOp : String := "AND"
  /-- The largest distance of a name that is suggested for an unknown one. -/
  suggestionThreshold : UInt64 := 2
  deriving DecidableEq, Repr

/-- A configuration; the rules are kept as texts. -/
structure Config where
  rules : NameMap String := NameMap.empty
  settings : Settings := {}
  deriving DecidableEq

namespace Config

/-- The default configuration has no rules. -/
def default : Config := {}

instance : Inhabited Config := ⟨default⟩

/-- The default configuration with two rules that show what rules look like. -/
def examples : Config :=
  { rules := NameMap.ofList
      [("sales_or_marketing",
          "((age > 30 AND department = 'Sales') OR (age < 25 AND department = 'Marketing'))"),
        ("experienced", "experience > 5 AND salary < 100000")] }

end Config

def Settings.toJson (s : Settings) : Json :=
  .object
    [("max_depth", .count s.maxDepth.toNat), ("default_op", .text s.defaultOp),
      ("suggestion_threshold", .count s.suggestionThreshold.toNat)]

/-- The JSON form of a configuration, its rules in increasing order of names. -/
def Config.toJson (c : Config) : Json :=
  .object
    [("rules", .object (c.rules.entries.map fun (name, text) => (name, .text text))),
      ("settings", c.settings.toJson)]

def Config.toText (c : Config) : String := c.toJson.toPrettyText

end AttributeRules
