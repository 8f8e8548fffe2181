import AttributeRules.Config.Problem
import AttributeRules.Config.Reader
import AttributeRules.FileSystem

/-! Configurations in files.

A missing file counts as the default configuration where one is loaded, but not where one is verified. Saving
makes the directories above the file. -/

namespace AttributeRules

inductive ConfigFileError
  /-- No path is given, and there is no home directory to look in. -/
  | noHome
  | unreadable (path : Path) (e : OsError)
  /-- The text at the path is no configuration. -/
  | malformed (path : Path) (text : String)
  | noDirectory (e : OsError)
  | unwritable (path : Path) (e : OsError)
  deriving DecidableEq, Repr

/-- The message of an error, where a function tells what is wrong with a text that is no configuration. -/
def ConfigFileError.message (fault : String → String) : ConfigFileError → String
  | .noHome => "Could not find home directory"
  | .unreadable path e =>
    let reason := e.message
    s!"Failed to read config file: {path}: {reason}"
  | .malformed path text =>
    let detail := fault text
    s!"Failed to parse config file: {path}: {detail}"
  | .noDirectory e => e.message
  | .unwritable path e =>
    let reason := e.message
    s!"Failed to write config file: {path}: {reason}"

inductive VerifyError
  | notFound (path : Path)
  | unreadable (path : Path) (e : OsError)
  | malformed (text : String)
  deriving DecidableEq, Repr

def VerifyError.message (fault : String → String) : VerifyError → String
  | .notFound path => s!"config file not found: {path}"
  | .unreadable path e =>
    let reason := e.message
    s!"failed to read config file: {path}: {reason}"
  | .malformed text =>
    let detail := fault text
    s!"invalid config: {detail}"

namespace Config

/-- The path of the configuration, if it has one. -/
def locate (path? : Option Path) : Except ConfigFileError Path :=
  match path? with
  | some path => .ok path
  | none => .error .noHome

def load (fs : FileSystem) (path : Path) : Except ConfigFileError Config :=
  if fs.exists? path then
    match fs.read path with
    | .error e => .error (.unreadable path e)
    | .ok text =>
      match ofText? text with
      | some c => .ok c
      | none => .error (.malformed path text)
  else .ok default

def save (c : Config) (fs : FileSystem) (path : Path) : Except ConfigFileError Unit × FileSystem :=
  match fs.makeParents path with
  | (.error e, made) => (.error (.noDirectory e), made)
  | (.ok (), made) =>
    match made.write path c.toText with
    | .error e => (.error (.unwritable path e), made)
    | .ok written => (.ok (), written)

def verifyFile (fs : FileSystem) (path : Path) : Except VerifyError (List ConfigProblem) :=
  if fs.exists? path then
    match fs.read path with
    | .error e => .error (.unreadable path e)
    | .ok text =>
      match ofText? text with
      | some c => .ok c.problems
      | none => .error (.malformed text)
  else .error (.notFound path)

end Config
end AttributeRules
