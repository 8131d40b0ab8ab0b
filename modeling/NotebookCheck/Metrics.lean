import NotebookCheck.Number.Binary64

namespace NotebookCheck

open Number

inductive Counter where
  | packageImports (success : Bool)
  | diagnosticFailures
  | pollAttempts (operation : String)
  | pollTimeouts (operation : String)
  | snippetChecks (success : Bool)
deriving Repr, DecidableEq, Inhabited

inductive Histogram where
  | importSeconds
deriving Repr, DecidableEq, Inhabited

namespace Metrics

def resultLabel : String := "result"

def operationLabel : String := "operation"

def backendLabel : String := "backend"

def resultName (success : Bool) : String :=
  if success then "success" else "failure"

end Metrics

namespace Counter

def name : Counter → String
  | packageImports _ => "workbench_probe_package_imports_total"
  | diagnosticFailures => "workbench_probe_diagnostic_failures_total"
  | pollAttempts _ => "workbench_probe_poll_attempts_total"
  | pollTimeouts _ => "workbench_probe_poll_timeouts_total"
  | snippetChecks _ => "workbench_probe_snippet_checks_total"

def label? : Counter → Option (String × String)
  | packageImports success => some (Metrics.resultLabel, Metrics.resultName success)
  | diagnosticFailures => none
  | pollAttempts operation => some (Metrics.operationLabel, operation)
  | pollTimeouts operation => some (Metrics.operationLabel, operation)
  | snippetChecks success => some (Metrics.resultLabel, Metrics.resultName success)

def series (c : Counter) : String :=
  match c.label? with
  | none => c.name
  | some (key, value) => c.name ++ "\x7b" ++ key ++ "=" ++ value ++ "\x7d"

end Counter

def Histogram.series : Histogram → String
  | importSeconds => "workbench_probe_package_import_duration_seconds"

namespace Metrics

/-- The counters and histograms with what they count, in the order in which they are announced. -/
def descriptions : List (String × String × String) :=
  [("counter", (Counter.packageImports true).name,
      "Total number of package import attempts by result"),
    ("histogram", Histogram.importSeconds.series,
      "Wall-clock duration of a single package import in seconds"),
    ("counter", Counter.diagnosticFailures.name,
      "Total number of failed container log retrievals"),
    ("counter", (Counter.pollAttempts "").name,
      "Total number of probe attempts made by bounded pollers"),
    ("counter", (Counter.pollTimeouts "").name,
      "Total number of bounded polls that exhausted their timeout"),
    ("counter", (Counter.snippetChecks true).name,
      "Total number of functional snippet checks by result")]

def importBuckets : List Binary64 :=
  [(5, 100), (1, 10), (5, 10), (1, 1), (5, 1), (10, 1), (30, 1), (60, 1), (120, 1)].map
    fun q => Binary64.ofQuotient q.1 q.2

end Metrics

end NotebookCheck
