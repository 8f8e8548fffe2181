import AttributeRules.Config.Lookup
import AttributeRules.Connective

/-! What is wrong with a configuration.

The settings are checked before the rules. A rule is read within the limit on depth, or within one level if
the limit is zero, and its operands are checked one by one. -/

namespace AttributeRules

inductive ConfigProblem
  | zeroDepth
  | badConnective (e : RuleError)
  | blankName (name : String)
  | badRule (name : String) (e : RuleError)
  deriving DecidableEq, Repr

/-- The message of a flaw, which starts with the place of it. -/
def ConfigProblem.message : ConfigProblem → String
  | .zeroDepth => "settings.max_depth: must be at least 1"
  | .badConnective e =>
    let reason := e.message
    s!"settings.default_op: {reason}"
  | .blankName name => s!"rules.{name}: rule name must not be empty"
  | .badRule name e =>
    let reason := e.message
    s!"rules.{name}: {reason}"

/-- The errors of a rule text that no context can mend, when it is read within a limit. -/
def Rule.textProblems (limit : Nat) (text : String) : List RuleError :=
  match Rule.parse limit text with
  | .error e => [e]
  | .ok r => r.problems

namespace Config

def settingsProblems (s : Settings) : List ConfigProblem :=
  (if s.maxDepth = 0 then [.zeroDepth] else []) ++
    match Connective.ofText s.defaultOp with
    | .error e => [.badConnective e]
    | .ok _ => []

def ruleProblems (limit : Nat) (name text : String) : List ConfigProblem :=
  (if (Text.trim name.toList).isEmpty then [.blankName name] else []) ++
    (Rule.textProblems limit text).map (.badRule name)

def problems (c : Config) : List ConfigProblem :=
  settingsProblems c.settings ++
    c.rules.entries.flatMap fun (name, text) => ruleProblems (max c.depthLimit 1) name text

end Config
end AttributeRules
