import NotebookCheck.Fault
import NotebookCheck.Json.Record
import NotebookCheck.Ledger

namespace NotebookCheck

open Json Number Text

structure PackageResult where
  package : String
  success : Bool
  errorMessage : Option String
  command : String
  seconds : Binary64
  logs : Option String
  stdout : String
  stderr : String
deriving Repr, DecidableEq, Inhabited

abbrev PackageReport := Ledger PackageResult

namespace PackageReport

def add (r : PackageReport) (result : PackageResult) : PackageReport :=
  r.insert result.package result

def failed (r : PackageReport) : List String := r.namesWhere fun x => !x.success

def successful (r : PackageReport) : List String := r.namesWhere (·.success)

def allSuccessful (r : PackageReport) : Bool := r.values.all (·.success)

def summaryLine (r : PackageReport) : String :=
  s!"{(successful r).length}/{r.size} packages imported successfully"

end PackageReport

def PackageResult.toJson (r : PackageResult) : Json :=
  .object [("package_name", .string r.package), ("import_successful", .bool r.success),
    ("error_message", ofText? r.errorMessage), ("command_executed", .string r.command),
    ("execution_time_seconds", .real r.seconds), ("pod_logs", ofText? r.logs),
    ("stdout", .string r.stdout), ("stderr", .string r.stderr)]

def PackageResult.ofJson? (j : Json) : Option PackageResult := do
  let names := ["package_name", "import_successful", "error_message", "command_executed",
    "execution_time_seconds", "pod_logs", "stdout", "stderr"]
  match ← slots? names j with
  | [package, success, errorMessage, command, seconds, logs, stdout, stderr] =>
      return {
        package := ← package.required text?
        success := ← success.required bool?
        errorMessage := ← errorMessage.nullable text?
        command := ← command.required text?
        seconds := ← seconds.required number?
        logs := ← logs.nullable text?
        stdout := ← stdout.defaulted "" text?
        stderr := ← stderr.defaulted "" text? }
  | _ => none

def PackageReport.toJson (r : PackageReport) : Json :=
  .object (r.entries.map fun e => (e.1, e.2.toJson))

namespace PackageReport

def excerptLength : Nat := 500

def excerpt (logs : String) : String := String.ofList (logs.toList.take excerptLength)

/-- The lines of the log excerpt of a result, if it has a log that is not empty. -/
def excerptBlock (result : PackageResult) : String :=
  match result.logs with
  | none => ""
  | some logs =>
      if logs.isEmpty then ""
      else
        "     Pod Logs (excerpt):\n" ++
          join "" ((pieces '\n' (excerpt logs)).map fun line => "       " ++ line ++ "\n")

def failureBlock (name : String) (result : PackageResult) : String :=
  "  ❌ " ++ name ++ ":\n     Error: " ++ result.errorMessage.getD "unknown error" ++
    "\n     Command: " ++ result.command ++
    "\n     Execution Time: " ++ result.seconds.hundredths ++ "s\n" ++
    excerptBlock result ++ "\n"

def troubleshooting : String :=
  "Troubleshooting:\n" ++
    "  1. Verify the custom image contains the required packages\n" ++
    "  2. Check if packages are installed in the correct Python environment\n" ++
    "  3. Verify package names match import names (pip name vs import name)\n" ++
    "  4. Contact the workbench image team for package installation issues"

def failureBlocks (r : PackageReport) : List String :=
  (r.entries.filter fun e => !e.2.success).map fun e => failureBlock e.1 e.2

def failureText (target : String) (r : PackageReport) : String :=
  "The following packages are not importable in " ++ target ++ ":\n\n" ++
    join "" (failureBlocks r) ++ troubleshooting

end PackageReport

end NotebookCheck
