import AttributeRules.Command.Program

/-! The program in the real world.

The files that a command line can touch are copied into a file system value; the program runs on that value,
and what it changed there is carried out afterwards. Plain texts stand in for those of libraries. -/

namespace AttributeRules

def lookUp (path : Path) : IO (Option Entry) := do
  let found ← try some <$> IO.FS.realPath path catch _ => pure none
  match found with
  | none => return none
  | some p => if ← p.isDir then return some .directory else return some (.file (← IO.FS.readFile p))

/-- Copies what is on the way to a path. -/
def copyWay (fs : FileSystem) (path : Path) : IO FileSystem := do
  let mut copy := fs
  let mut place := path.start
  for name in path.names do
    place := place.step name
    if let some e ← lookUp place.toPath then copy := copy.put place e
  return copy

def Request.paths (env : Environment) : Request → List Path
  | .run i =>
    (env.configPathFor i.options).toList ++
      match i.command with
      | .eval _ (.file path) => [path]
      | .combine _ _ _ (.file path) => [path]
      | .check _ _ (.file path) => [path]
      | _ => []
  | _ => []

/-- Carries out the changes between two file systems. -/
def carryOut (before after : FileSystem) : IO Unit := do
  for (place, entry) in after.entries.reverse do
    if before.get? place ≠ some entry then
      match entry with
      | .directory => IO.FS.createDirAll place.toPath
      | .file content => IO.FS.writeFile place.toPath content

def runMain (args : List String) : IO UInt32 := do
  let env : Environment :=
    { home := (← IO.getEnv "HOME").filter (· ≠ "")
      configPath := ← IO.getEnv "RULEKIT_CONFIG"
      logFilter := ← IO.getEnv "RULEKIT_LOG" }
  let paths := match Request.ofArguments args with
    | .ok request => request.paths env
    | .error _ => []
  let before ← paths.foldlM copyWay {}
  let stdout ← IO.getStdout
  let (output, after) := Program.run .plain env (← stdout.isTty) before args
  carryOut before after
  stdout.putStr output.stdout
  (← IO.getStderr).putStr output.stderr
  return output.exitCode.toUInt32

end AttributeRules

def main (args : List String) : IO UInt32 := AttributeRules.runMain args
