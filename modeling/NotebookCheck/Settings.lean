import NotebookCheck.Fault

namespace NotebookCheck

open Text

structure Settings where
  runtime : String := "python"
  packageTimeout : Nat := 60
  collectDiagnostics : Bool := true
  logTailLines : Nat := 100
  readinessTimeout : Nat := 600
  pollInterval : Nat := 5
  connectionTimeout : Nat := 30
  overallTimeout : Nat := 300
  connectionPollInterval : Nat := 2
  snippetRetryInterval : Nat := 1
  readinessLogLines : Nat := 50
deriving Repr, DecidableEq, Inhabited

namespace Settings

def maxPackageTimeout : Nat := 3600

def maxReadinessTimeout : Nat := 7200

def maxPollInterval : Nat := 300

def maxLogLines : Nat := 10000

def maxOverallTimeout : Nat := 86400

def isExecutableName (s : String) : Bool := !s.isEmpty && !hasBlank s

def checkSeconds (field : String) (greatest value : Nat) : Except Fault Unit :=
  if value = 0 || greatest < value then .error (.config field s!"must be 1-{greatest}")
  else .ok ()

def check (s : Settings) : Except Fault Unit := do
  if isExecutableName s.runtime then pure ()
  else .error (.config "runtime" "must be a single executable name")
  checkSeconds "package_timeout_secs" maxPackageTimeout s.packageTimeout
  checkSeconds "readiness_timeout_secs" maxReadinessTimeout s.readinessTimeout
  checkSeconds "poll_interval_secs" maxPollInterval s.pollInterval
  checkSeconds "connection_poll_interval_secs" maxPollInterval s.connectionPollInterval
  checkSeconds "snippet_retry_interval_secs" maxPollInterval s.snippetRetryInterval
  checkSeconds "connection_timeout_secs" maxReadinessTimeout s.connectionTimeout
  checkSeconds "overall_timeout_secs" maxOverallTimeout s.overallTimeout
  if maxLogLines < s.logTailLines || maxLogLines < s.readinessLogLines then
    .error (.config "log_tail_lines" s!"must be 0-{maxLogLines}")

def millis (seconds : Nat) : Nat := seconds * 1000

end Settings

end NotebookCheck
