import NotebookCheck.CommandLine.Exit
import NotebookCheck.CommandLine.Invocation
import NotebookCheck.CommandLine.Report
import NotebookCheck.Configuration.Loading
import NotebookCheck.Packages
import NotebookCheck.Readiness
import NotebookCheck.Snippet

namespace NotebookCheck.CommandLine

open Text

abbrev Run (α : Type) : Type := ExceptT Failure Work α

namespace Run

variable {α : Type}

def ofExcept (r : Except Failure α) : Run α := ExceptT.mk (pure r)

def fail (f : Failure) : Run α := ofExcept (.error f)

def ofWork (w : Work (Except Failure α)) : Run α := ExceptT.mk w

def perform (w : Work α) : Run α := ExceptT.lift w

def attempt (a : Attempt α) : Run α :=
  ofWork do return (← a.outcome).mapError Failure.ofFault

end Run

structure Surroundings where
  file : String → File
  env : Configuration.Environment
  styled : Bool
  connect : Backend → Attempt Target
  writer : Configuration.Writer := {}

namespace Surroundings

def reach (s : Surroundings) (config : Configuration) (place : Place) : Attempt Target := do
  let backend :=
    if place.docker then .container place.pod
    else
      .pod (place.namespaceName.getD config.namespaceName)
        (if config.context.isEmpty then none else some config.context) place.pod
  Work.record (.connect backend)
  s.connect backend

def rendered (s : Surroundings) (format : Format) (report : Report) : String :=
  match format with
  | .text => report.text s.styled
  | .json => line (report.json.indented 0)

def conclude (s : Surroundings) (format : Format) (report : Report) (failure : Option Failure) :
    Run Unit := do
  Work.record (.print (s.rendered format report))
  match failure with
  | some f => Run.fail f
  | none => return ()

end Surroundings

def VerifyOptions.settings (o : VerifyOptions) (config : Configuration) : Settings :=
  { config.settings with
    runtime := o.runtime.getD config.settings.runtime
    collectDiagnostics := config.settings.collectDiagnostics && !o.noDiagnostics }

/-- The failure of a command that has verified packages, if one of them cannot be imported. -/
def VerifyReport.failure? (r : VerifyReport) : Option Failure :=
  if PackageReport.allSuccessful r.results then none else some (.verification r.summary)

def examinePackages (s : Surroundings) (config : Configuration) (o : VerifyOptions) :
    Attempt VerifyReport := do
  let settings := o.settings config
  Attempt.ofExcept settings.check
  let timeout := Settings.millis (o.timeout.getD settings.packageTimeout)
  Attempt.ofExcept (Packages.checkRequest o.packages timeout)
  let container := o.container.getD o.place.pod
  let target ← s.reach config o.place
  let results ← Packages.verify target settings container o.packages timeout
  Work.note .info "verification finished"
    [("summary", .text (PackageReport.summaryLine results))]
  return { target := o.place.pod, container, results }

def verify (s : Surroundings) (format : Format) (config : Configuration) (o : VerifyOptions) :
    Run Unit := do
  let report ← Run.attempt (examinePackages s config o)
  s.conclude format report.report report.failure?

def WaitOptions.settings (o : WaitOptions) (config : Configuration) : Settings :=
  { config.settings with
    readinessTimeout := o.timeout.getD config.settings.readinessTimeout }

/-- The failure of a command that has waited that many seconds, if the target is not ready. -/
def WaitReport.failure? (seconds : Nat) (r : WaitReport) : Option Failure :=
  if r.ready then none
  else some (.timeout s!"'{r.target}' did not become ready within {seconds}s")

/-- What comes of waiting for a target; a target that is not ready in time is reported too. -/
def waitReport (target : Target) (settings : Settings) : Attempt WaitReport :=
  Attempt.ofWork do
    match ← (Readiness.waitUntilReady target settings).outcome with
    | .ok snapshot => return .ok (.ofSnapshot snapshot)
    | .error (.notReady failure) => return .ok (.ofFailure failure)
    | .error fault => return .error fault

def examineReadiness (s : Surroundings) (config : Configuration) (o : WaitOptions) :
    Attempt WaitReport := do
  let settings := o.settings config
  Attempt.ofExcept settings.check
  let target ← s.reach config o.place
  waitReport target settings

def wait (s : Surroundings) (format : Format) (config : Configuration) (o : WaitOptions) :
    Run Unit := do
  let report ← Run.attempt (examineReadiness s config o)
  s.conclude format report.report (report.failure? (o.settings config).readinessTimeout)

def CheckOptions.settings (o : CheckOptions) (config : Configuration) : Settings :=
  { config.settings with
    overallTimeout := o.overallTimeout.getD config.settings.overallTimeout }

def CheckReport.failure? (r : CheckReport) : Option Failure :=
  let failed := SnippetReport.failed r.results
  if failed.isEmpty then none
  else
    some (.verification
      (s!"{failed.length} of {r.results.size} snippet checks failed: " ++ join ", " failed))

def passCheckpoint (d : Deadline) (phase : String) : Attempt Deadline :=
  Attempt.ofWork do
    let (result, d) ← d.checkpoint phase
    return result.map fun () => d

def checkPhases (target : Target) (settings : Settings) (container : String)
    (checks : List SnippetCheck) (d : Deadline) : Attempt (SnippetReport × Deadline) := do
  let _ ← Readiness.waitUntilReady target settings
  let d ← passCheckpoint d "readiness"
  Readiness.waitForConnection target container settings
  let d ← passCheckpoint d "exec connection"
  Attempt.ofWork do
    let (result, d) ← Snippet.runSuite target settings container checks d
    return result.map fun report => (report, d)

def examineSnippets (s : Surroundings) (config : Configuration) (o : CheckOptions) :
    Attempt CheckReport := do
  let checks ← Attempt.ofExcept (SnippetSuite.ofName o.suite)
  let settings := o.settings config
  Attempt.ofExcept settings.check
  let container := o.container.getD o.place.pod
  let d ← Deadline.start (Settings.millis settings.overallTimeout)
  let target ← s.reach config o.place
  let (results, d) ← checkPhases target settings container checks d
  let elapsed ← d.finish
  return {
    target := o.place.pod, container, suite := o.suite, results
    seconds := Number.Binary64.ofMillis elapsed }

def check (s : Surroundings) (format : Format) (config : Configuration) (o : CheckOptions) :
    Run Unit := do
  let report ← Run.attempt (examineSnippets s config o)
  s.conclude format report.report report.failure?

/-- An annotation out of a word with an equals sign, without the blank characters around its
parts, of which neither may be empty. -/
def annotationOf (word : String) : Except Failure (String × String) :=
  let (key, rest) := word.toList.span (· ≠ '=')
  let key := trim (String.ofList key)
  let value := trim (String.ofList (rest.drop 1))
  if rest.isEmpty || key.isEmpty || value.isEmpty then
    .error (.precondition s!"invalid annotation '{word}', expected KEY=VALUE")
  else .ok (key, value)

def ResourcesReport.failure? (r : ResourcesReport) : Option Failure :=
  if r.isMatch then none
  else
    some (.verification
      s!"{r.mismatches.length} of {r.checked} sidecar resource values differ")

def examineSidecar (s : Surroundings) (config : Configuration) (place : Place)
    (annotations : List (String × String)) : Attempt ResourcesReport := do
  let expected ← Attempt.ofExcept (Sidecar.Expected.ofAnnotations annotations)
  let target ← s.reach config place
  let snapshot ← target.presentSnapshot
  Work.note .info "checking auth sidecar resources"
    [("target_name", .text target.name), ("fields", .count expected.size)]
  let mismatches ← Sidecar.check snapshot expected
  return { target := place.pod, checked := expected.size, mismatches }

def resources (s : Surroundings) (format : Format) (config : Configuration)
    (o : ResourcesOptions) : Run Unit := do
  let annotations ← Run.ofExcept (o.annotations.mapM annotationOf)
  let report ← Run.attempt (examineSidecar s config o.place annotations)
  s.conclude format report.report report.failure?

def configProblem? : Except Problem Configuration → Option String
  | .error problem => some problem.message
  | .ok config =>
      match config.settings.check with
      | .ok () => none
      | .error fault => some fault.message

def validateConfig (s : Surroundings) (format : Format) (path : String) : Run Unit := do
  Work.note .info "validating configuration" [("path", .text path)]
  let loaded ← Run.perform (Configuration.load path (s.file path) s.env)
  let report : ValidationReport := { path, problem := configProblem? loaded }
  s.conclude format report.report
    (if report.isValid then none else some (.config "configuration is invalid"))

def pickSection : Option String → Except Failure (Option Configuration.Section)
  | none => .ok none
  | some name =>
      match Configuration.Section.ofName? name with
      | some s => .ok (some s)
      | none =>
          .error (.command (s!"unknown section: {name} (expected: " ++
            join ", " (Configuration.Section.all.map (·.name)) ++ ")"))

def showConfig (s : Surroundings) (format : Format) (path : String)
    (sectionName : Option String) : Run Unit := do
  Work.note .info "loading configuration" [("path", .text path)]
  let config ← Run.ofWork do
    return (← Configuration.load path (s.file path) s.env).mapError Failure.core
  let only ← Run.ofExcept (pickSection sectionName)
  s.conclude format (ConfigReport.ofConfiguration s.writer path only config).report none

/-- The failure of a command whose configuration has a problem; a problem with the environment
alone keeps its own wording. -/
def configFailure (file : File) (problem : Problem) : Failure :=
  match file with
  | .missing => .core problem
  | _ => .config problem.message

def loadConfig (s : Surroundings) (path : String) : Work (Except Failure Configuration) := do
  let loaded ← Configuration.loadOrDefault path (s.file path) s.env
  return loaded.mapError (configFailure (s.file path))

/-- Does what a command line asks for.  The configuration is loaded first, also for the commands
about it, which load it again to report on it. -/
def Invocation.run (i : Invocation) (s : Surroundings) : Run Unit := do
  let loaded ← Run.perform (loadConfig s i.configPath)
  match i.action with
  | .verify o => verify s i.format (← Run.ofExcept loaded) o
  | .wait o => wait s i.format (← Run.ofExcept loaded) o
  | .check o => check s i.format (← Run.ofExcept loaded) o
  | .resources o => resources s i.format (← Run.ofExcept loaded) o
  | .validateConfig => validateConfig s i.format i.configPath
  | .showConfig sectionName => showConfig s i.format i.configPath sectionName

end NotebookCheck.CommandLine
