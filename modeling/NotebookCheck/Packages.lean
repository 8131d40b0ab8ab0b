import NotebookCheck.Command
import NotebookCheck.Packages.Encoding
import NotebookCheck.Settings
import NotebookCheck.Target

/-!
Verifying that packages can be imported in a container.  The request and the target are checked
first; then each distinct package is imported in turn, and no failure of one ends the batch.
-/

namespace NotebookCheck.Packages

open Number

def logPlaceholder : String := "Could not retrieve pod logs"

/-- Refuses an empty list, a zero timeout in milliseconds, and the first name that is none. -/
def checkRequest (packages : List String) (timeout : Nat) : Except Fault Unit := do
  if packages.isEmpty then .error (.validation "packages list cannot be empty")
  if timeout = 0 then .error (.validation "timeout must be positive")
  packages.forM checkPackageName

/-- Refuses a target that is not there, is not running, or does not declare the container. -/
def checkTarget (target : Target) (container : String) : Attempt Unit := do
  let snapshot ← target.presentSnapshot
  if !snapshot.phase.isRunning then
    Attempt.fail (.precondition (.notRunning target.name snapshot.phase.name))
  else if (snapshot.container? container).isNone then
    Attempt.fail (.precondition
      (.containerNotFound target.name container snapshot.containerNames))

def collectLogs (target : Target) (settings : Settings) (container : String) : Work String := do
  match ← (target.log container settings.logTailLines).outcome with
  | .ok logs => return logs
  | .error fault =>
      Work.record (.count .diagnosticFailures)
      Work.note .warn "failed to collect pod logs"
        [("container", .text container), ("error", .text fault.message)]
      return logPlaceholder

def verifyOne (target : Target) (settings : Settings) (container package : String)
    (timeout : Nat) : Work PackageResult := do
  let command := Command.importing settings.runtime package
  Work.note .debug "executing" [("command", .text command.display)]
  let (answer, elapsed) ← (target.executeWithin timeout container command.argv).timed
  let seconds := Binary64.ofMillis elapsed
  Work.record (.sample .importSeconds seconds)
  match answer.getD (.error (.timeout ("import " ++ package) elapsed timeout 1)) with
  | .ok stdout =>
      Work.record (.count (.packageImports true))
      Work.note .info "import successful"
        [("package", .text package), ("elapsed_secs", .seconds seconds)]
      return {
        package, success := true, errorMessage := none, command := command.display, seconds
        logs := none, stdout, stderr := "" }
  | .error fault =>
      Work.record (.count (.packageImports false))
      Work.note .warn "import failed"
        [("package", .text package), ("error", .text fault.message)]
      let logs ←
        if settings.collectDiagnostics then some <$> collectLogs target settings container
        else pure none
      return {
        package, success := false, errorMessage := some fault.message
        command := command.display, seconds, logs, stdout := "", stderr := fault.message }

def verifyEach (target : Target) (settings : Settings) (container : String) (timeout : Nat)
    (report : PackageReport) : List String → Work PackageReport
  | [] => return report
  | package :: rest => do
      if (report.get? package).isSome then
        Work.note .debug "duplicate package skipped" [("package", .text package)]
        verifyEach target settings container timeout report rest
      else
        let result ← verifyOne target settings container package timeout
        verifyEach target settings container timeout (report.add result) rest

def verify (target : Target) (settings : Settings) (container : String)
    (packages : List String) (timeout : Nat) : Attempt PackageReport := do
  Attempt.ofExcept (checkRequest packages timeout)
  checkTarget target container
  Work.note .info "verifying packages"
    [("target_name", .text target.name), ("container", .text container),
      ("count", .count packages.length)]
  let report ← verifyEach target settings container timeout .empty packages
  Work.note .info "package verification finished"
    [("target_name", .text target.name), ("successful", .count report.successful.length),
      ("failed", .count report.failed.length)]
  return report

end NotebookCheck.Packages
