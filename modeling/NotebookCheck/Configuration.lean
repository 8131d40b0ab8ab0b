import NotebookCheck.Problem
import NotebookCheck.Settings

namespace NotebookCheck

open Text

structure Configuration where
  logLevel : String := "info"
  logFormat : String := "pretty"
  namespaceName : String := "default"
  context : String := ""
  readinessTimeout : Nat := 600
  pollInterval : Nat := 5
  connectionTimeout : Nat := 30
  runtime : String := "python"
  packageTimeout : Nat := 60
  collectDiagnostics : Bool := true
  logTailLines : Nat := 100
  overallTimeout : Nat := 300
deriving Repr, DecidableEq, Inhabited

namespace Configuration

inductive Section where
  | general
  | cluster
  | readiness
  | verification
deriving Repr, DecidableEq, Inhabited

inductive Field where
  | logLevel
  | logFormat
  | namespaceName
  | context
  | readinessTimeout
  | pollInterval
  | connectionTimeout
  | runtime
  | packageTimeout
  | collectDiagnostics
  | logTailLines
  | overallTimeout
deriving Repr, DecidableEq, Inhabited

/-- The kinds of values: texts, truth values, and numbers of so many bits. -/
inductive Kind where
  | text
  | flag
  | count (bits : Nat)
deriving Repr, DecidableEq, Inhabited

inductive Value where
  | text (s : String)
  | flag (b : Bool)
  | count (n : Nat)
deriving Repr, DecidableEq, Inhabited

namespace Section

def all : List Section := [general, cluster, readiness, verification]

def name : Section → String
  | general => "general"
  | cluster => "cluster"
  | readiness => "readiness"
  | verification => "verification"

def fields : Section → List Field
  | general => [.logLevel, .logFormat]
  | cluster => [.namespaceName, .context]
  | readiness => [.readinessTimeout, .pollInterval, .connectionTimeout]
  | verification =>
      [.runtime, .packageTimeout, .collectDiagnostics, .logTailLines, .overallTimeout]

def ofName? (name : String) : Option Section :=
  all.find? fun s => s.name = name

end Section

namespace Field

def owner : Field → Section
  | logLevel | logFormat => .general
  | namespaceName | context => .cluster
  | readinessTimeout | pollInterval | connectionTimeout => .readiness
  | runtime | packageTimeout | collectDiagnostics | logTailLines | overallTimeout =>
      .verification

def key : Field → String
  | logLevel => "log_level"
  | logFormat => "log_format"
  | namespaceName => "namespace"
  | context => "context"
  | readinessTimeout => "timeout_secs"
  | pollInterval => "poll_interval_secs"
  | connectionTimeout => "connection_timeout_secs"
  | runtime => "runtime"
  | packageTimeout => "package_timeout_secs"
  | collectDiagnostics => "collect_diagnostics"
  | logTailLines => "log_tail_lines"
  | overallTimeout => "overall_timeout_secs"

def fullName (f : Field) : String := f.owner.name ++ "." ++ f.key

def kind : Field → Kind
  | logLevel | logFormat | namespaceName | context | runtime => .text
  | collectDiagnostics => .flag
  | logTailLines => .count 32
  | readinessTimeout | pollInterval | connectionTimeout | packageTimeout | overallTimeout =>
      .count 64

def all : List Field := Section.all.flatMap Section.fields

end Field

def get (c : Configuration) : Field → Value
  | .logLevel => .text c.logLevel
  | .logFormat => .text c.logFormat
  | .namespaceName => .text c.namespaceName
  | .context => .text c.context
  | .readinessTimeout => .count c.readinessTimeout
  | .pollInterval => .count c.pollInterval
  | .connectionTimeout => .count c.connectionTimeout
  | .runtime => .text c.runtime
  | .packageTimeout => .count c.packageTimeout
  | .collectDiagnostics => .flag c.collectDiagnostics
  | .logTailLines => .count c.logTailLines
  | .overallTimeout => .count c.overallTimeout

def set (c : Configuration) : Field → Value → Configuration
  | .logLevel, .text s => { c with logLevel := s }
  | .logFormat, .text s => { c with logFormat := s }
  | .namespaceName, .text s => { c with namespaceName := s }
  | .context, .text s => { c with context := s }
  | .readinessTimeout, .count n => { c with readinessTimeout := n }
  | .pollInterval, .count n => { c with pollInterval := n }
  | .connectionTimeout, .count n => { c with connectionTimeout := n }
  | .runtime, .text s => { c with runtime := s }
  | .packageTimeout, .count n => { c with packageTimeout := n }
  | .collectDiagnostics, .flag b => { c with collectDiagnostics := b }
  | .logTailLines, .count n => { c with logTailLines := n }
  | .overallTimeout, .count n => { c with overallTimeout := n }
  | _, _ => c

def logLevels : List String := ["trace", "debug", "info", "warn", "error"]

def logFormats : List String := ["json", "pretty"]

def checkAmong (f : Field) (choices : List String) (value : String) : Except ConfigProblem Unit :=
  if choices.contains value then .ok ()
  else .error (.invalid f.fullName ("must be one of: " ++ join ", " choices))

def checkPositive (f : Field) (value : Nat) : Except ConfigProblem Unit :=
  if value = 0 then .error (.invalid f.fullName "must be greater than 0") else .ok ()

def check (c : Configuration) : Except ConfigProblem Unit := do
  checkAmong .logLevel logLevels c.logLevel
  checkAmong .logFormat logFormats c.logFormat
  if c.namespaceName.isEmpty then
    .error (.invalid Field.namespaceName.fullName "namespace must not be empty")
  checkPositive .readinessTimeout c.readinessTimeout
  checkPositive .pollInterval c.pollInterval
  checkPositive .connectionTimeout c.connectionTimeout
  checkPositive .packageTimeout c.packageTimeout
  checkPositive .overallTimeout c.overallTimeout
  if isAllBlank c.runtime || hasBlank c.runtime then
    .error (.invalid Field.runtime.fullName "runtime must be a single executable name")

def settings (c : Configuration) : Settings where
  runtime := c.runtime
  packageTimeout := c.packageTimeout
  collectDiagnostics := c.collectDiagnostics
  logTailLines := c.logTailLines
  readinessTimeout := c.readinessTimeout
  pollInterval := c.pollInterval
  connectionTimeout := c.connectionTimeout
  overallTimeout := c.overallTimeout

end Configuration

end NotebookCheck
