import AttributeRules.Config.Basic
import AttributeRules.Failure
import AttributeRules.Rule.Parser
import AttributeRules.Text.EditDistance
import AttributeRules.Text.Lowercase

/-! Finding rules by name, and suggesting names for one that is unknown.

Names are compared in lower case. A defined name is suggested if its distance is within the threshold; nearer
ones come first, and those at one distance in increasing order. -/

namespace AttributeRules

/-- A name that no rule has, and the names that may have been meant. -/
structure UnknownRule where
  name : String
  suggestions : List String
  deriving DecidableEq, Repr

def UnknownRule.toFailure (u : UnknownRule) : Failure :=
  let name := u.name
  ⟨.ruleNotFound, s!"rule '{name}' is not defined in the config", u.suggestions⟩

/-- The distance of two names in lower case. -/
def nameDistance (a b : String) : Nat := Text.editDistance (Text.lowercase a.toList) (Text.lowercase b.toList)

inductive LoadError
  | unknown (u : UnknownRule)
  | unreadable (e : RuleError)
  deriving DecidableEq, Repr

def LoadError.toFailure : LoadError → Failure
  | .unknown u => u.toFailure
  | .unreadable e => e.toFailure

namespace Config

def depthLimit (c : Config) : Nat := c.settings.maxDepth.toNat

/-- Names with their distances: nearer before farther, and increasing at one distance. -/
def comesBefore (a b : String × Nat) : Bool := a.2 < b.2 || (a.2 == b.2 && a.1 ≤ b.1)

/-- The defined names within the threshold of a name. -/
def suggest (c : Config) (name : String) : List String :=
  let measured := c.rules.names.map fun known => (known, nameDistance name known)
  let near := measured.filter fun (_, distance) => distance ≤ c.settings.suggestionThreshold.toNat
  (near.mergeSort comesBefore).map (·.1)

def unknownRule (c : Config) (name : String) : UnknownRule := ⟨name, c.suggest name⟩

def find (c : Config) (name : String) : Except UnknownRule String :=
  match c.rules.get? name with
  | some text => .ok text
  | none => .error (c.unknownRule name)

/-- The rule with a name, read within the limit on depth. -/
def loadRule (c : Config) (name : String) : Except LoadError Rule :=
  match c.find name with
  | .error u => .error (.unknown u)
  | .ok text => (Rule.parse c.depthLimit text).mapError .unreadable

end Config
end AttributeRules
