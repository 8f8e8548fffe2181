import AttributeRules.Command.Arguments
import AttributeRules.Log

/-! What the program takes from libraries.

Libraries write the log, tell what is wrong with a text that cannot be read, and have texts of their own on how the
program is used. -/

namespace AttributeRules

/-- The libraries that the program uses, as far as it does not decide itself what they give. -/
structure Libraries where
  /-- Is a text a filter for what is logged? -/
  isFilter : String → Bool
  /-- What is written under a filter for an event that so many others were logged before: a line, which may tell the time,
  or nothing if the filter keeps the event out. -/
  logText : String → Nat → LogEvent → String
  /-- What is wrong with a text that is no configuration. -/
  configFault : String → String
  /-- What is wrong with a text that is no context. -/
  contextFault : String → String
  /-- What is said of arguments that cannot be read. -/
  usageText : List String → UsageError → String
  /-- How the program is used, for arguments that ask for it. -/
  helpText : List String → String
  /-- The script that completes commands in a shell. -/
  completions : Shell → String

namespace Libraries

/-- The library that writes the log knows levels by their names: each is a filter that keeps out what matters less. -/
structure FiltersByLevel (lib : Libraries) : Prop where
  isFilter (level : LogLevel) : lib.isFilter level.name = true
  silent {level : LogLevel} {e : LogEvent} (h : level.rank < e.level.rank) (n : Nat) : lib.logText level.name n e = ""

/-- Libraries that take only the names of levels as filters, and write an event without the time and its data. -/
def plain : Libraries where
  isFilter s := (LogLevel.ofName? s).isSome
  logText filter _ e :=
    match LogLevel.ofName? filter with
    | some level => if level.rank < e.level.rank then "" else s!"{e.level.name} {e.target}: {e.message}\n"
    | none => ""
  configFault _ := "not a configuration"
  contextFault _ := "not an object of integers and texts"
  usageText _ _ := "error: the arguments cannot be read\n"
  helpText _ := "Usage: rulekit [OPTIONS] <COMMAND>\n"
  completions _ := ""

theorem plain_filtersByLevel : plain.FiltersByLevel where
  isFilter level := by cases level <;> rfl
  silent {level e} h n := by
    have hname : LogLevel.ofName? level.name = some level := by cases level <;> rfl
    show (match LogLevel.ofName? level.name with
      | some level => if level.rank < e.level.rank then "" else _
      | none => "") = ""
    rw [hname]
    exact if_pos h

end Libraries
end AttributeRules
