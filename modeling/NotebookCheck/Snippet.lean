import NotebookCheck.Command
import NotebookCheck.Deadline
import NotebookCheck.Poll
import NotebookCheck.Settings
import NotebookCheck.Snippet.Report
import NotebookCheck.Target
import NotebookCheck.Text.Case

namespace NotebookCheck.Snippet

open Number Text

def failureMarkers : List String := ["error", "exception", "traceback"]

def indicatesFailure (output : String) : Bool :=
  let lowered := lowercase output
  failureMarkers.any fun marker => occursIn marker lowered

def tryOnce (target : Target) (container : String) (argv : List String) (timeout : Nat) :
    Attempt (Tick String) :=
  Attempt.ofWork do
    match ← target.executeWithin timeout container argv with
    | some (.ok output) => return .ok (.satisfied output)
    | some (.error fault) => return .error fault
    | none => return .error (.timeout "snippet execution" timeout timeout 1)

def outcomeOf (timeout elapsed : Nat) : Except Fault String → SnippetOutcome
  | .ok output => ⟨!indicatesFailure output, output, Binary64.ofMillis elapsed⟩
  | .error (.timeout _ _ _ _) =>
      ⟨false, "Code execution timeout after " ++ (Binary64.ofMillis elapsed).hundredths ++
        s!"s (limit: {timeout / 1000}s)", Binary64.ofMillis elapsed⟩
  | .error fault =>
      ⟨false, "Pod execution failed: " ++ fault.message, Binary64.ofMillis elapsed⟩

def run (target : Target) (settings : Settings) (container code : String) (timeout : Nat) :
    Attempt SnippetOutcome := do
  let poller ← Attempt.ofExcept
    (Poller.ofBounds "snippet execution" (Settings.millis settings.snippetRetryInterval) timeout)
  let poller := (poller.ignoring .api).ignoring .connection
  let command := Command.snippet settings.runtime code
  Work.note .debug "executing snippet" [("command", .text command.display)]
  let (result, elapsed) ←
    (poller.run (tryOnce target container command.argv timeout)).outcome.timed
  let outcome := outcomeOf timeout elapsed result
  Work.record (.count (.snippetChecks outcome.success))
  return outcome

def runCheck (target : Target) (settings : Settings) (container : String)
    (check : SnippetCheck) : Attempt SnippetOutcome := do
  let outcome ← run target settings container check.code check.timeout
  if outcome.success then
    Work.note .info "snippet check passed"
      [("check", .text check.name), ("elapsed_secs", .seconds outcome.seconds)]
  else
    Work.note .warn "snippet check failed"
      [("check", .text check.name), ("output", .text outcome.output)]
  return outcome

/-- Runs checks one after the other, adding to a report, until one cannot be run or the deadline
has passed at the end of one. -/
def runEach (target : Target) (settings : Settings) (container : String) (deadline : Deadline)
    (report : SnippetReport) :
    List SnippetCheck → Work (Except Fault SnippetReport × Deadline)
  | [] => return (.ok report, deadline)
  | check :: rest => do
      match ← (runCheck target settings container check).outcome with
      | .error fault => return (.error fault, deadline)
      | .ok outcome =>
          let report := report.insert check.name outcome
          match ← deadline.checkpoint ("snippet " ++ check.name) with
          | (.error fault, deadline) => return (.error fault, deadline)
          | (.ok (), deadline) => runEach target settings container deadline report rest

def runSuite (target : Target) (settings : Settings) (container : String)
    (checks : List SnippetCheck) (deadline : Deadline) :
    Work (Except Fault SnippetReport × Deadline) := do
  Work.note .info "running snippet checks"
    [("target_name", .text target.name), ("container", .text container),
      ("checks", .count checks.length)]
  let (result, deadline) ← runEach target settings container deadline .empty checks
  match result with
  | .error fault => return (.error fault, deadline)
  | .ok report =>
      Work.note .info s!"{report.successful.length}/{report.size} snippet checks passed"
      return (.ok report, deadline)

end NotebookCheck.Snippet
