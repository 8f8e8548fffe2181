import AttributeRules.Config.Lookup
import AttributeRules.Connective
import AttributeRules.Text.Decimal

/-! Changing one entry of a configuration.

A change is addressed by a key: the name of a rule or one of the three settings. A value that does not suit its
key is refused. The text of a rule is taken as it is. The configuration comes back from a change in any case, as
the change has left it. -/

namespace AttributeRules

inductive ConfigKey
  | rule (name : String)
  | maxDepth
  | defaultOp
  | suggestionThreshold
  deriving DecidableEq, Repr

/-- Reads a key; the name of a rule is not empty, and may hold dots. -/
def ConfigKey.ofText? (key : String) : Option ConfigKey :=
  if key = "settings.max_depth" then some .maxDepth
  else if key = "settings.default_op" then some .defaultOp
  else if key = "settings.suggestion_threshold" then some .suggestionThreshold
  else
    match key.toList with
    | 'r' :: 'u' :: 'l' :: 'e' :: 's' :: '.' :: c :: rest => some (.rule (String.ofList (c :: rest)))
    | _ => none

inductive EditError
  | unknownKey (key : String)
  | badNumber (value : String) (fault : Text.NumberFault)
  | zeroDepth
  | badConnective (e : RuleError)
  deriving DecidableEq, Repr

namespace EditError

def message : EditError → String
  | .unknownKey key =>
    s!"Unknown config key: {key}. Valid keys: rules.<name>, settings.max_depth, settings.default_op, " ++
      "settings.suggestion_threshold"
  | .badNumber value fault =>
    let reason := fault.message
    s!"Invalid number: {value}: {reason}"
  | .zeroDepth => "max_depth must be at least 1"
  | .badConnective e => e.message

def toFailure : EditError → Failure
  | .badConnective e => e.toFailure
  | e => ⟨.general, e.message, []⟩

end EditError

namespace Config

/-- Reads an unsigned number of 64 bits as the value of a setting. -/
def readNumber (value : String) : Except EditError UInt64 :=
  match Text.readNumber 0xFFFFFFFFFFFFFFFF value.toList with
  | .ok n => .ok (UInt64.ofNat n)
  | .error fault => .error (.badNumber value fault)

def setAt (c : Config) (value : String) : ConfigKey → Except EditError Unit × Config
  | .rule name => (.ok (), { c with rules := c.rules.insert name value })
  | .maxDepth =>
    match readNumber value with
    | .error e => (.error e, c)
    | .ok n =>
      if n = 0 then (.error .zeroDepth, c) else (.ok (), { c with settings := { c.settings with maxDepth := n } })
  | .defaultOp =>
    match Connective.ofText value with
    | .error e => (.error (.badConnective e), c)
    | .ok op => (.ok (), { c with settings := { c.settings with defaultOp := op.keyword } })
  | .suggestionThreshold =>
    match readNumber value with
    | .error e => (.error e, c)
    | .ok n => (.ok (), { c with settings := { c.settings with suggestionThreshold := n } })

def set (c : Config) (key value : String) : Except EditError Unit × Config :=
  match ConfigKey.ofText? key with
  | none => (.error (.unknownKey key), c)
  | some k => c.setAt value k

/-- Takes the rule with a name out and gives its text. What may have been meant by an unknown name is looked for in what
is left. -/
def remove (c : Config) (name : String) : Except UnknownRule String × Config :=
  let (text?, rules) := c.rules.take name
  let left := { c with rules }
  match text? with
  | some text => (.ok text, left)
  | none => (.error (left.unknownRule name), left)

end Config
end AttributeRules
