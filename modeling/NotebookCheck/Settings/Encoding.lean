import NotebookCheck.Json.Record
import NotebookCheck.Settings

namespace NotebookCheck.Settings

open Json

def toJson (s : Settings) : Json :=
  .object [("runtime", .string s.runtime), ("package_timeout_secs", ofNat s.packageTimeout),
    ("collect_diagnostics", .bool s.collectDiagnostics),
    ("log_tail_lines", ofNat s.logTailLines),
    ("readiness_timeout_secs", ofNat s.readinessTimeout),
    ("poll_interval_secs", ofNat s.pollInterval),
    ("connection_timeout_secs", ofNat s.connectionTimeout),
    ("overall_timeout_secs", ofNat s.overallTimeout),
    ("connection_poll_interval_secs", ofNat s.connectionPollInterval),
    ("snippet_retry_interval_secs", ofNat s.snippetRetryInterval),
    ("readiness_log_lines", ofNat s.readinessLogLines)]

def seconds? : Json → Option Nat := natBelow? UInt64.size

def lines? : Json → Option Nat := natBelow? UInt32.size

def withField? (s : Settings) (name : String) (value : Json) : Option Settings :=
  match name with
  | "runtime" => (text? value).map fun v => { s with runtime := v }
  | "package_timeout_secs" => (seconds? value).map fun v => { s with packageTimeout := v }
  | "collect_diagnostics" => (bool? value).map fun v => { s with collectDiagnostics := v }
  | "log_tail_lines" => (lines? value).map fun v => { s with logTailLines := v }
  | "readiness_timeout_secs" => (seconds? value).map fun v => { s with readinessTimeout := v }
  | "poll_interval_secs" => (seconds? value).map fun v => { s with pollInterval := v }
  | "connection_timeout_secs" => (seconds? value).map fun v => { s with connectionTimeout := v }
  | "overall_timeout_secs" => (seconds? value).map fun v => { s with overallTimeout := v }
  | "connection_poll_interval_secs" =>
      (seconds? value).map fun v => { s with connectionPollInterval := v }
  | "snippet_retry_interval_secs" =>
      (seconds? value).map fun v => { s with snippetRetryInterval := v }
  | "readiness_log_lines" => (lines? value).map fun v => { s with readinessLogLines := v }
  | _ => some s

def ofFields? (fields : List (String × Json)) : Option Settings :=
  fields.foldlM (fun s f => s.withField? f.1 f.2) {}

end NotebookCheck.Settings
