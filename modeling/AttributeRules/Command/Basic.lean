import AttributeRules.FileSystem

/-! Commands, with the options and the environment that they run under. -/

namespace AttributeRules

/-- The shells that completions are made for. -/
inductive Shell
  | bash
  | elvish
  | fish
  | powershell
  | zsh
  deriving DecidableEq, Repr

/-- The shell with a name. -/
def Shell.ofText? (s : String) : Option Shell :=
  if s = "bash" then some .bash
  else if s = "elvish" then some .elvish
  else if s = "fish" then some .fish
  else if s = "powershell" then some .powershell
  else if s = "zsh" then some .zsh
  else none

/-- Where the context of an evaluation comes from. -/
inductive ContextSource
  | absent
  | inline (text : String)
  | file (path : Path)
  deriving DecidableEq, Repr

inductive ConfigCommand
  | view
  | path
  | set (key value : String)
  | remove (name : String)
  | reset
  | viewDefault
  | verify
  deriving DecidableEq, Repr

/-- A command. The connective of a combination may be left to the settings. -/
inductive Command
  | parse (rule : String)
  | eval (rule : String) (context : ContextSource)
  | combine (left right : String) (op : Option String) (context : ContextSource)
  | check (names : List String) (op : Option String) (context : ContextSource)
  | config (command : ConfigCommand)
  | completions (shell : Shell)
  deriving DecidableEq, Repr

/-- How a command is run and its outcome shown. -/
structure Options where
  configPath : Option Path := none
  json : Bool := false
  noJson : Bool := false
  quiet : Bool := false
  verbose : Bool := false
  deriving DecidableEq, Repr

structure Invocation where
  options : Options
  command : Command
  deriving DecidableEq, Repr

/-- What the environment tells a command. -/
structure Environment where
  /-- The home directory, if there is one. -/
  home : Option Path := none
  /-- The path of the configuration in place of the one in the home directory. -/
  configPath : Option Path := none
  logFilter : Option String := none
  deriving DecidableEq, Repr

/-- The path of the configuration: the one that an option gives, else the one in the environment, else a file
in the home directory, if there is one. -/
def Environment.configPathFor (env : Environment) (options : Options) : Option Path :=
  match options.configPath, env.configPath with
  | some path, _ => some path
  | none, some path => some path
  | none, none => env.home.map fun home => (Path.join home ".rulekit").join "config.json"

inductive OutputMode
  | text
  | json
  | quiet
  deriving DecidableEq, Repr

/-- The mode that the flags ask for: quiet before JSON before text, and without a flag text on a terminal and
JSON elsewhere. -/
def OutputMode.ofFlags (json noJson quiet terminal : Bool) : OutputMode :=
  if quiet then .quiet
  else if json then .json
  else if noJson || terminal then .text
  else .json

def Options.outputMode (o : Options) (terminal : Bool) : OutputMode :=
  .ofFlags o.json o.noJson o.quiet terminal

end AttributeRules
