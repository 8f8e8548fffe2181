import AttributeRules.Command.Basic

/-! Reading command lines.

Arguments are read from left to right. An argument that starts with a dash is an option, unless it is a single
dash or follows a double one; the value of an option is attached to it or is the next argument, which then
must not look like an option. Names of commands lead down one level; options that all commands share may stand
at each level, and the deepest value counts. A fault ends the reading at once, and so does a request for help
or for the version. A value that is an argument of its own is looked at only with the next argument, and if
that leads down a level, at the end, when conflicts and missing arguments are found as well. -/

namespace AttributeRules

inductive CommandOption
  | config
  | json
  | noJson
  | quiet
  | verbose
  | context
  | contextFile
  | op
  | rule
  | help
  | version
  deriving DecidableEq, Repr

/-- A command that takes arguments of its own. -/
inductive CommandName
  | parse
  | eval
  | combine
  | check
  | view
  | path
  | set
  | remove
  | reset
  | viewDefault
  | verify
  | completions
  deriving DecidableEq, Repr

/-- How far down the names of commands have led. -/
inductive Level
  | program
  | config
  | command (name : CommandName)
  /-- Names of commands follow that help is asked for; the level is where they are looked up. -/
  | help (topic : Level)
  deriving DecidableEq, Repr

inductive UsageError
  | unknownOption (text : String)
  | unknownCommand (text : String)
  | unexpectedArgument (text : String)
  | unexpectedValue (option : String)
  | missingValue (option : CommandOption)
  | invalidValue (value : String)
  | repeated (option : CommandOption)
  | conflict (a b : CommandOption)
  | missingCommand
  | missingArgument
  deriving DecidableEq, Repr

inductive Request
  | run (invocation : Invocation)
  | help
  | version
  deriving DecidableEq, Repr

/-- Why reading ends before the last argument. -/
inductive Stop
  | fault (e : UsageError)
  | help
  | version
  deriving DecidableEq, Repr

namespace CommandOption

def ofLong? (name : String) : Option CommandOption :=
  [("config", config), ("json", json), ("no-json", noJson), ("quiet", quiet), ("verbose", verbose),
    ("context", context), ("context-file", contextFile), ("op", op), ("rule", rule), ("help", help),
    ("version", version)].lookup name

def ofShort? : Char → Option CommandOption
  | 'j' => some json
  | 'q' => some quiet
  | 'v' => some verbose
  | 'c' => some context
  | 'r' => some rule
  | 'h' => some help
  | 'V' => some version
  | _ => none

def takesValue : CommandOption → Bool
  | config | context | contextFile | op | rule => true
  | _ => false

/-- Is the value of the option a path, which cannot be empty? -/
def takesPath : CommandOption → Bool
  | config | contextFile => true
  | _ => false

end CommandOption

namespace CommandName

def takesContext : CommandName → Bool
  | eval | combine | check => true
  | _ => false

def takesOp : CommandName → Bool
  | combine | check => true
  | _ => false

/-- How many arguments the command takes besides its options. -/
def arity : CommandName → Nat
  | combine | set => 2
  | parse | eval | remove | completions => 1
  | _ => 0

end CommandName

namespace Level

def allows (l : Level) (o : CommandOption) : Bool :=
  match o with
  | .version => l = .program
  | .context | .contextFile =>
    match l with
    | .command name => name.takesContext
    | _ => false
  | .op =>
    match l with
    | .command name => name.takesOp
    | _ => false
  | .rule => l = .command .check
  | _ => true

/-- The level that the name of a command leads to. -/
def enter? (l : Level) (name : String) : Option Level :=
  match l with
  | .program =>
    [("parse", command .parse), ("eval", command .eval), ("combine", command .combine),
      ("check", command .check), ("config", config), ("completions", command .completions),
      ("help", help program)].lookup name
  | .config =>
    [("show", command .view), ("path", command .path), ("set", command .set), ("remove", command .remove),
      ("reset", command .reset), ("default", command .viewDefault), ("verify", command .verify),
      ("help", help config)].lookup name
  | _ => none

end Level

/-- A command line that has been read in part. -/
structure Reading where
  level : Level := .program
  /-- The options given at the level, with their values. -/
  given : List (CommandOption × String) := []
  /-- The options given at the levels above, the nearest first. -/
  above : List (List (CommandOption × String)) := []
  arguments : List String := []
  /-- The option whose value comes next. -/
  pending : Option CommandOption := none
  /-- A fault in the value that the last argument gave. -/
  doubt : Option UsageError := none
  /-- A fault in the value in front of the name of a command. -/
  late : Option UsageError := none
  /-- Has a double dash ended the options? -/
  ended : Bool := false

namespace Reading

def fail {α : Type} (e : UsageError) : Except Stop α := .error (.fault e)

/-- What is wrong with a value of an option; only rules may be given more than once. -/
def fault? (r : Reading) (o : CommandOption) (value : String) : Option UsageError :=
  if o.takesPath && value.isEmpty then some (.invalidValue value)
  else if o ≠ .rule ∧ (r.given.lookup o).isSome then some (.repeated o)
  else none

def give (r : Reading) (o : CommandOption) (value : String) : Except Stop Reading :=
  match r.fault? o value with
  | some e => fail e
  | none => .ok { r with given := r.given ++ [(o, value)] }

/-- Takes an argument as the value of the option before it, which is not judged yet. -/
def giveValue (r : Reading) (o : CommandOption) (value : String) : Reading :=
  { r with given := r.given ++ [(o, value)], pending := none, doubt := r.fault? o value }

def giveFlag (r : Reading) (o : CommandOption) : Except Stop Reading :=
  if o = .help then .error .help
  else if o = .version then .error .version
  else r.give o ""

def enter (r : Reading) (next : Level) : Reading :=
  { r with level := next, given := [], above := r.given :: r.above, doubt := none, late := r.late.or r.doubt }

/-- Takes an argument of the command, which is neither an option nor the name of a further command. -/
def giveArgument (r : Reading) (arg : String) : Except Stop Reading :=
  match r.level with
  | .command name =>
    if r.arguments.length < name.arity then
      if name = .completions ∧ (Shell.ofText? arg).isNone then fail (.invalidValue arg)
      else .ok { r with arguments := r.arguments ++ [arg] }
    else fail (.unexpectedArgument arg)
  | _ => fail (.unknownCommand arg)

/-- Takes a further name after a request for help. -/
def giveTopic (r : Reading) (topic : Level) (arg : String) : Except Stop Reading :=
  match topic.enter? arg with
  | some next => .ok { r with level := .help next }
  | none => fail (.unknownCommand arg)

/-- Takes an option by its long name, with its value after an equals sign. -/
def giveLong (r : Reading) (body : List Char) : Except Stop Reading :=
  let (name, rest) := body.span (· ≠ '=')
  let name := String.ofList name
  match CommandOption.ofLong? name with
  | none => fail (.unknownOption name)
  | some o =>
    if r.level.allows o then
      match o.takesValue, rest with
      | true, _ :: value => r.give o (String.ofList value)
      | true, [] => .ok { r with pending := some o }
      | false, [] => r.giveFlag o
      | false, _ :: _ => fail (.unexpectedValue name)
    else fail (.unknownOption name)

/-- Takes options by their short names, one after the other; what follows one that takes a value is the
value, after an equals sign or at once. -/
def giveShort (r : Reading) : List Char → Except Stop Reading
  | [] => .ok r
  | c :: rest =>
    match CommandOption.ofShort? c with
    | none => fail (.unknownOption (String.ofList [c]))
    | some o =>
      if r.level.allows o then
        if o.takesValue then
          match rest with
          | [] => .ok { r with pending := some o }
          | '=' :: value => r.give o (String.ofList value)
          | value => r.give o (String.ofList value)
        else
          match r.giveFlag o with
          | .ok next => next.giveShort rest
          | .error stop => .error stop
      else fail (.unknownOption (String.ofList [c]))

/-- Does the argument look like an option? -/
def looksLikeOption (arg : String) : Bool :=
  match arg.toList with
  | '-' :: _ :: _ => true
  | _ => false

/-- Takes an argument that is neither a value nor the name of a command. -/
def stepWithin (r : Reading) (arg : String) : Except Stop Reading :=
  if r.ended then r.giveArgument arg
  else
    match arg.toList with
    | ['-', '-'] => .ok { r with ended := true }
    | '-' :: '-' :: body => r.giveLong body
    | '-' :: c :: rest => r.giveShort (c :: rest)
    | _ => r.giveArgument arg

def step (r : Reading) (arg : String) : Except Stop Reading :=
  match r.level, r.pending with
  | .help topic, _ => r.giveTopic topic arg
  | _, some o => if looksLikeOption arg then fail (.missingValue o) else .ok (r.giveValue o arg)
  | level, none =>
    match if r.ended then none else level.enter? arg, r.doubt with
    | some next, _ => .ok (r.enter next)
    | none, some e => fail e
    | none, none => r.stepWithin arg

/-- The options given at all levels, the deepest level first. -/
def levels (r : Reading) : List (List (CommandOption × String)) := r.given :: r.above

def hasFlag (r : Reading) (o : CommandOption) : Bool := r.levels.any fun given => (given.lookup o).isSome

/-- The options that all commands share. -/
def options (r : Reading) : Options where
  configPath := r.levels.findSome? (·.lookup .config)
  json := r.hasFlag .json
  noJson := r.hasFlag .noJson
  quiet := r.hasFlag .quiet
  verbose := r.hasFlag .verbose

def context (r : Reading) : ContextSource :=
  match r.given.lookup .context, r.given.lookup .contextFile with
  | some text, _ => .inline text
  | none, some path => .file path
  | none, none => .absent

def rules (r : Reading) : List String := (r.given.filter (·.1 = .rule)).map (·.2)

/-- Two options that are given at one level and exclude each other. -/
def conflict? (given : List (CommandOption × String)) : Option UsageError :=
  let both (a b : CommandOption) := (given.lookup a).isSome && (given.lookup b).isSome
  if both .json .noJson then some (.conflict .json .noJson)
  else if both .context .contextFile then some (.conflict .context .contextFile)
  else none

/-- The command with the arguments that were read. -/
def command? (r : Reading) (name : CommandName) : Option Command :=
  match name, r.arguments with
  | .parse, [rule] => some (.parse rule)
  | .eval, [rule] => some (.eval rule r.context)
  | .combine, [left, right] => some (.combine left right (r.given.lookup .op) r.context)
  | .check, [] => if r.rules.isEmpty then none else some (.check r.rules (r.given.lookup .op) r.context)
  | .view, [] => some (.config .view)
  | .path, [] => some (.config .path)
  | .set, [key, value] => some (.config (.set key value))
  | .remove, [name] => some (.config (.remove name))
  | .reset, [] => some (.config .reset)
  | .viewDefault, [] => some (.config .viewDefault)
  | .verify, [] => some (.config .verify)
  | .completions, [shell] => (Shell.ofText? shell).map .completions
  | _, _ => none

/-- Ends the reading after the last argument. -/
def finish (r : Reading) : Except Stop Invocation :=
  match r.pending, r.level with
  | some o, _ => fail (.missingValue o)
  | none, .program => fail .missingCommand
  | none, .config => fail .missingCommand
  | none, .help _ => .error .help
  | none, .command name =>
    match (r.late.or r.doubt).or (r.levels.findSome? conflict?) with
    | some e => fail e
    | none =>
      match r.command? name with
      | some command => .ok ⟨r.options, command⟩
      | none => fail .missingArgument

end Reading

/-- Reads the arguments of a program. -/
def Request.ofArguments (args : List String) : Except UsageError Request :=
  match (args.foldlM Reading.step {}).bind Reading.finish with
  | .ok invocation => .ok (.run invocation)
  | .error (.fault e) => .error e
  | .error .help => .ok .help
  | .error .version => .ok .version

end AttributeRules
