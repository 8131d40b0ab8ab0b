import NotebookCheck.CommandLine.Machine

namespace NotebookCheck

open CommandLine

def variableNames : List String :=
  [Machine.socketVariable, Machine.kubeconfigVariable] ++
    Configuration.Field.all.map Configuration.Field.variableName

def readFile (path : String) : IO File := do
  try
    return .bytes (← IO.FS.readBinFile path).toList
  catch
    | .noFileOrDirectory .. => return .missing
    | .inappropriateType .. => return .unreadable "Is a directory (os error 21)"
    | e => return .unreadable (toString e)

def perform (i : Invocation) : IO Ending := do
  let values ← variableNames.mapM fun name => do return (name, ← IO.getEnv name)
  let env (name : String) : Option String := (values.lookup name).join
  let paths := i.configPath :: (env Machine.kubeconfigVariable).toList
  let files ← paths.mapM fun path => do return (path, ← readFile path)
  let styled ← (← IO.getStdout).isTty
  let machine : Machine := {
    file := fun path => (files.lookup path).getD .missing
    env
    styled := styled && (← IO.getEnv "NO_COLOR").isNone
    isSocket := fun _ => false
    daemon := fun _ => { status := 503 }
    serverAt := fun _ _ => { status := 503 } }
  return (i.ending? machine).getD { stdout := "", stderr := "", exitCode := 1 }

end NotebookCheck

open NotebookCheck in
def main (words : List String) : IO UInt32 := do
  match CommandLine.Invocation.ofWords words with
  | .error e =>
      IO.eprintln "a command is verify, wait, check, resources or config, with its options"
      return e.exitCode.toUInt32
  | .ok i => do
      let ending ← perform i
      IO.print ending.stdout
      IO.eprint ending.stderr
      return ending.exitCode.toUInt32
