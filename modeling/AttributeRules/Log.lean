import AttributeRules.Evaluation
import AttributeRules.FileSystem
import AttributeRules.Rule.Printer

/-! What is logged.

The steps of a command log events. An event has a level, a target, which is the part of the program that it comes from,
and the data that goes with it. Which events are written, and how, is up to a filter. -/

namespace AttributeRules

/-! ### Levels and events -/

/-- How much an event matters; errors matter most. -/
inductive LogLevel
  | error
  | warn
  | info
  | debug
  | trace
  deriving DecidableEq, Repr

namespace LogLevel

def name : LogLevel → String
  | .error => "error"
  | .warn => "warn"
  | .info => "info"
  | .debug => "debug"
  | .trace => "trace"

/-- The number of levels that matter more. -/
def rank : LogLevel → Nat
  | .error => 0
  | .warn => 1
  | .info => 2
  | .debug => 3
  | .trace => 4

def ofName? (s : String) : Option LogLevel := [error, warn, info, debug, trace].find? (·.name == s)

end LogLevel

inductive LogEvent
  /-- There is no file at the path of the configuration, which is the default one then. -/
  | configMissing (path : Path)
  | configLoaded (path : Path) (rules : Nat)
  /-- A text at a depth is split into two, which are read next. -/
  | split (op : Connective) (left right : String) (depth : Nat)
  | parsed (depth : Nat) (rule : String)
  | evaluated (operand : String) (actual : Value) (result : Bool)
  | combining (op : Connective)
  | combined (op : Connective) (rules : Nat)
  | checking (names : List String) (op : Connective)
  | validated (name : String)
  | contextLoaded (attributes : Nat)
  deriving DecidableEq, Repr

namespace LogEvent

def level : LogEvent → LogLevel
  | .split .. => .trace
  | .evaluated .. => .trace
  | .combining _ => .trace
  | _ => .debug

def target : LogEvent → String
  | .configMissing _ | .configLoaded .. => "rulekit::config"
  | .split .. | .parsed .. => "rulekit::rules::parser"
  | .evaluated .. => "rulekit::rules::eval"
  | .combining _ | .combined .. => "rulekit::rules::combine"
  | .checking .. | .validated _ | .contextLoaded _ => "rulekit::cli::commands"

def message : LogEvent → String
  | .configMissing _ => "config file not found, using defaults"
  | .configLoaded .. => "loaded config"
  | .split .. => "split rule"
  | .parsed .. => "parsed rule"
  | .evaluated .. => "evaluated operand"
  | .combining _ => "combining rules"
  | .combined .. => "combined rules"
  | .checking .. => "checking named rules"
  | .validated _ => "rule validated"
  | .contextLoaded _ => "loaded evaluation context"

/-- No event matters as much as a warning. -/
theorem warn_lt_level (e : LogEvent) : LogLevel.warn.rank < e.level.rank := by
  cases e <;> simp [level, LogLevel.rank]

end LogEvent

/-! ### Events of rules -/

namespace Rule

/-- The splits that are made while a text at a depth is read within so many levels, up to the place that is too deep;
and whether there is no such place. -/
def splits (depth : Nat) : Nat → List Char → List LogEvent × Bool
  | 0, _ => ([], false)
  | levels + 1, text =>
    match split? (unwrap (Text.trim text)) with
    | none => ([], true)
    | some s =>
      let (left, fits) := splits (depth + 1) levels s.left
      let (right, fits) := if fits then splits (depth + 1) levels s.right else ([], false)
      (.split s.op (String.ofList s.left) (String.ofList s.right) depth :: (left ++ right), fits)

/-- What is logged while a text is read as a rule. -/
def parseEvents (limit : Nat) (text : String) : List LogEvent :=
  (splits 1 limit text.toList).1 ++
    match parse limit text with
    | .ok r => [.parsed r.depth r.write]
    | .error _ => []

/-- What is logged while an operand is evaluated, and whether it has a result. -/
def operandEvents (context : Context) (operand : String) : List LogEvent × Bool :=
  match Comparison.ofText operand with
  | .error _ => ([], false)
  | .ok c =>
    match context.get? c.attributeName, c.evaluate context operand with
    | some actual, .ok result => ([.evaluated operand actual result], true)
    | _, _ => ([], false)

/-- What is logged while a rule of which so many levels may be entered is evaluated, and whether it has a result. -/
def evaluationEventsWithin (context : Context) : Nat → Rule → List LogEvent × Bool
  | 0, _ => ([], false)
  | _ + 1, .operand text => operandEvents context text
  | levels + 1, .operator _ left right =>
    let (before, succeeds) := evaluationEventsWithin context levels left
    let (after, succeeds) := if succeeds then evaluationEventsWithin context levels right else ([], false)
    (before ++ after, succeeds)

def evaluationEvents (context : Context) (limit : Nat) (r : Rule) : List LogEvent :=
  (evaluationEventsWithin context limit r).1

/-- What is logged while rules are joined from the left. -/
def combineEvents (op : Connective) (rules : List Rule) : List LogEvent :=
  match rules with
  | [] => []
  | _ :: rest => rest.map (fun _ => .combining op) ++ [.combined op rules.length]

end Rule

/-! ### Filters -/

namespace LogFilter

/-- The filter that is used where none is asked for. -/
def default : String := LogLevel.warn.name

/-- The filter for a command: everything from the debug level on if it is verbose, else what the environment asks for,
trimmed, if that is not blank. -/
def directive (verbose : Bool) (environment : Option String) : String :=
  if verbose then LogLevel.debug.name
  else
    let asked := Text.trim (environment.getD "").toList
    if asked.isEmpty then default else String.ofList asked

/-- The warning that something asked for is no filter. -/
def warning (asked : String) : String :=
  s!"warning: invalid RULEKIT_LOG directive '{asked}', using '{default}'\n"

end LogFilter
end AttributeRules
