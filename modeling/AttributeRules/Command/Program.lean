import AttributeRules.Command.Run

/-! The whole program: from its arguments to what it leaves on its outputs and in the file system. -/

namespace AttributeRules

/-- What a program leaves behind on its outputs. -/
structure Output where
  stdout : String := ""
  stderr : String := ""
  exitCode : Nat := 0
  deriving DecidableEq, Repr

/-- What the parts of the standard error are written as under a filter, where so many events were logged before. -/
def Libraries.writeParts (lib : Libraries) (filter : String) : Nat → List ErrorPart → String
  | _, [] => ""
  | n, .text s :: rest => s ++ lib.writeParts filter n rest
  | n, .event e :: rest => lib.logText filter n e ++ lib.writeParts filter (n + 1) rest

/-- The filter for what is logged, after a warning if what is asked for is none. -/
def Libraries.chooseFilter (lib : Libraries) (asked : String) : String × String :=
  if lib.isFilter asked then ("", asked) else (LogFilter.warning asked, LogFilter.default)

def Invocation.run (lib : Libraries) (env : Environment) (terminal : Bool) (fs : FileSystem) (i : Invocation) :
    Output × FileSystem :=
  let (warning, filter) := lib.chooseFilter (LogFilter.directive i.options.verbose env.logFilter)
  let ended := i.command.run lib (i.options.outputMode terminal) (env.configPathFor i.options) fs
  ({ stdout := ended.stdout
     stderr := warning ++ lib.writeParts filter 0 ended.stderr
     exitCode := ended.exitCode }, ended.files)

namespace Program

/-- The name of the program and its version. -/
def version : String := "rulekit 0.1.0\n"

/-- Runs the program. -/
def run (lib : Libraries) (env : Environment) (terminal : Bool) (fs : FileSystem) (args : List String) :
    Output × FileSystem :=
  match Request.ofArguments args with
  | .error e => ({ stderr := lib.usageText args e, exitCode := ErrorKind.invalidArguments.exitCode }, fs)
  | .ok .help => ({ stdout := lib.helpText args }, fs)
  | .ok .version => ({ stdout := version }, fs)
  | .ok (.run i) => i.run lib env terminal fs

end Program
end AttributeRules
