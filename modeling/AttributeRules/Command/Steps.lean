import AttributeRules.Command.Libraries
import AttributeRules.Config.Edit
import AttributeRules.Config.File
import AttributeRules.Context.Json

/-! The steps of commands that only read.

A step has a result or fails, and logs events on its way. The first step that fails decides the error of a command. -/

namespace AttributeRules

/-! ### Errors -/

inductive CommandError
  | rule (e : RuleError)
  | unknownRule (u : UnknownRule)
  | noRules
  | noContext
  | unreadableContext (path : Path) (e : OsError)
  /-- The text is no context. -/
  | malformedContext (text : String)
  /-- The configuration has no path. -/
  | locate (e : ConfigFileError)
  | load (e : ConfigFileError)
  | save (e : ConfigFileError)
  | edit (e : EditError)
  | verify (e : VerifyError)
  | invalidConfig
  deriving DecidableEq, Repr

namespace CommandError

def kind : CommandError → ErrorKind
  | .rule e => e.kind
  | .unknownRule _ => .ruleNotFound
  | .noRules | .noContext | .unreadableContext .. | .malformedContext _ => .invalidArguments
  | .locate _ | .save _ => .general
  | .load _ | .edit _ | .verify _ | .invalidConfig => .config

def message (lib : Libraries) : CommandError → String
  | .rule e => e.message
  | .unknownRule u => u.toFailure.message
  | .noRules => "at least one --rule is required"
  | .noContext => "an evaluation context is required (--context or --context-file)"
  | .unreadableContext path e =>
    let reason := e.message
    s!"failed to read context file {path}: {reason}"
  | .malformedContext text =>
    let detail := lib.contextFault text
    s!"context must be a JSON object of integer or string values: {detail}"
  | .locate e | .load e | .save e => e.message lib.configFault
  | .edit e => e.message
  | .verify e => e.message lib.configFault
  | .invalidConfig => "configuration validation failed"

def suggestions : CommandError → List String
  | .unknownRule u => u.suggestions
  | _ => []

def toFailure (lib : Libraries) (e : CommandError) : Failure := ⟨e.kind, e.message lib, e.suggestions⟩

def ofLoadError : LoadError → CommandError
  | .unknown u => .unknownRule u
  | .unreadable e => .rule e

end CommandError

/-! ### Results with a log -/

/-- What a step comes to, with the events that it has logged. -/
structure Logged (α : Type) where
  outcome : Except CommandError α
  events : List LogEvent := []

namespace Logged
variable {α β : Type}

def fail (e : CommandError) : Logged α := { outcome := .error e }

def log (e : LogEvent) : Logged Unit := { outcome := .ok (), events := [e] }

/-- Goes on with a result; what is logged then comes after what was logged before. -/
def bind (x : Logged α) (f : α → Logged β) : Logged β :=
  match x.outcome with
  | .ok a => ⟨(f a).outcome, x.events ++ (f a).events⟩
  | .error e => ⟨.error e, x.events⟩

instance : Monad Logged where
  pure a := { outcome := .ok a }
  bind := Logged.bind

instance : MonadLift (Except CommandError) Logged where
  monadLift x := { outcome := x }

@[simp] theorem outcome_pure (a : α) : (pure a : Logged α).outcome = .ok a := rfl

@[simp] theorem outcome_fail (e : CommandError) : (fail e : Logged α).outcome = .error e := rfl

@[simp] theorem outcome_bind (x : Logged α) (f : α → Logged β) :
    (x >>= f).outcome = x.outcome.bind fun a => (f a).outcome := by
  show (x.bind f).outcome = _
  unfold bind
  cases x.outcome <;> rfl

@[simp] theorem outcome_lift (x : Except CommandError α) : (liftM x : Logged α).outcome = x := rfl

end Logged

/-! ### Steps -/

namespace Command
open Logged

def readContext (text : String) : Except CommandError Context :=
  match Context.ofJsonText? text with
  | some context => .ok context
  | none => .error (.malformedContext text)

/-- The context from a source, if there is one. -/
def loadContext (fs : FileSystem) : ContextSource → Except CommandError (Option Context)
  | .absent => .ok none
  | .inline text => (readContext text).map some
  | .file path =>
    match fs.read path with
    | .error e => .error (.unreadableContext path e)
    | .ok text => (readContext text).map some

def findContext (fs : FileSystem) (source : ContextSource) : Logged (Option Context) := do
  match ← loadContext fs source with
  | some context =>
    log (.contextLoaded context.size)
    return some context
  | none => return none

/-- The context from a source that has to give one. -/
def requireContext (fs : FileSystem) (source : ContextSource) : Logged Context := do
  match ← findContext fs source with
  | some context => return context
  | none => fail .noContext

def loadConfig (fs : FileSystem) (path? : Option Path) : Logged Config := do
  let path ← (Config.locate path?).mapError CommandError.load
  let c ← (Config.load fs path).mapError CommandError.load
  log (if fs.exists? path then .configLoaded path c.rules.size else .configMissing path)
  return c

def parseRule (c : Config) (text : String) : Logged Rule where
  outcome := (Rule.parse c.depthLimit text).mapError .rule
  events := Rule.parseEvents c.depthLimit text

def loadRule (c : Config) (name : String) : Logged Rule where
  outcome := (c.loadRule name).mapError .ofLoadError
  events :=
    match c.find name with
    | .ok text => Rule.parseEvents c.depthLimit text
    | .error _ => []

def readConnective (text : String) : Except CommandError Connective := (Connective.ofText text).mapError .rule

def evaluate (c : Config) (context : Context) (rule : Rule) : Logged Bool where
  outcome := (rule.evaluate context c.depthLimit).mapError .rule
  events := rule.evaluationEvents context c.depthLimit

/-- Joins rules that are not none. -/
def combineAll (op : Connective) (rules : List Rule) : Logged Rule where
  outcome :=
    match Rule.combineAll op rules with
    | some rule => .ok rule
    | none => .error .noRules
  events := Rule.combineEvents op rules

/-! ### What commands come to -/

structure Evaluated where
  rule : Rule
  result : Bool

/-- Two rules that were combined, with the result if there was a context. -/
structure Combined where
  rule : Rule
  op : Connective
  result : Option Bool

/-- Named rules that were combined and evaluated. -/
structure Checked where
  rule : Rule
  op : Connective
  result : Bool
  deriving DecidableEq

variable (fs : FileSystem) (path? : Option Path)

def readRule (text : String) : Logged Rule := do
  parseRule (← loadConfig fs path?) text

/-- Evaluates a rule. The context is read before the rule. -/
def evaluateRule (text : String) (source : ContextSource) : Logged Evaluated := do
  let c ← loadConfig fs path?
  let context ← requireContext fs source
  let rule ← parseRule c text
  return ⟨rule, ← evaluate c context rule⟩

/-- Combines two rules. They are read before the connective, and that before the context. -/
def combineRules (left right : String) (op : Option String) (source : ContextSource) : Logged Combined := do
  let c ← loadConfig fs path?
  let left ← parseRule c left
  let right ← parseRule c right
  let op ← readConnective (op.getD c.settings.defaultOp)
  log (.combining op)
  let rule := .operator op left right
  match ← findContext fs source with
  | some context => return ⟨rule, op, some (← evaluate c context rule)⟩
  | none => return ⟨rule, op, none⟩

/-- Checks named rules. The context is read before the connective, and that before the rules. -/
def checkRules (names : List String) (op : Option String) (source : ContextSource) : Logged Checked := do
  let c ← loadConfig fs path?
  let context ← requireContext fs source
  let op ← readConnective (op.getD c.settings.defaultOp)
  let rules ← names.mapM (loadRule c)
  let rule ← combineAll op rules
  log (.checking names op)
  return ⟨rule, op, ← evaluate c context rule⟩

/-- Refuses a change that stores a rule which cannot be read, or not evaluated in any context. -/
def guardChange (c : Config) (key value : String) : Logged Unit :=
  match ConfigKey.ofText? key with
  | some (.rule name) => do
    let rule ← parseRule c value
    match rule.problems with
    | [] => log (.validated name)
    | e :: _ => fail (.rule e)
  | _ => return ()

/-- The configuration with a value under a key. It is changed first and looked at then. -/
def change (c : Config) (key value : String) : Logged Config :=
  match c.set key value with
  | (.ok (), changed) => do
    guardChange changed key value
    return changed
  | (.error e, _) => fail (.edit e)

def setEntry (key value : String) : Logged Config := do
  change (← loadConfig fs path?) key value

def removeRule (name : String) : Logged Config := do
  match (← loadConfig fs path?).remove name with
  | (.ok _, left) => return left
  | (.error u, _) => fail (.unknownRule u)

end Command
end AttributeRules
