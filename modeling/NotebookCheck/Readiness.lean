import NotebookCheck.Command
import NotebookCheck.Diagnostics
import NotebookCheck.Poll
import NotebookCheck.Settings

namespace NotebookCheck.Readiness

def readyCondition : String := "Ready"

def conditionTrue : String := "True"

def waitForExistence (target : Target) (poller : Poller) : Attempt Snapshot :=
  poller.run do
    return .ofOption (← target.snapshot)

def waitForCondition (target : Target) (kind status : String) (poller : Poller) :
    Attempt Snapshot :=
  poller.run do
    return .ofOption ((← target.snapshot).filter fun s => s.hasCondition kind status)

def describeFailure (target : Target) (settings : Settings) (cause : Fault) :
    Work ReadinessFailure := do
  let failure (phase : Option Phase) (details : Option String) : ReadinessFailure := {
    target := target.name, phase, details, cause := cause.message
    timeout := Settings.millis settings.readinessTimeout }
  match ← target.snapshot.outcome with
  | .error fault =>
      Work.note .warn "failed to fetch state for diagnostics" [("error", .text fault.message)]
      return failure none none
  | .ok none => return failure none none
  | .ok (some snapshot) =>
      let details ← Diagnostics.failureDetails target snapshot settings.readinessLogLines
      return failure (some snapshot.phase) (some details)

def readinessPoller (settings : Settings) (operation : String) : Except Fault Poller :=
  (Poller.ofBounds operation (Settings.millis settings.pollInterval)
    (Settings.millis settings.readinessTimeout)).map (·.ignoring .api)

/-- Waits for the target to exist and then to be ready, with a poller for each. -/
def waitWith (target : Target) (existence ready : Poller) : Attempt Snapshot := do
  let _ ← waitForExistence target existence
  waitForCondition target readyCondition conditionTrue ready

/-- Puts the end of a wait for readiness on record, and says how the target stands if it failed. -/
def conclude (target : Target) (settings : Settings) :
    Except Fault Snapshot → Work (Except Fault Snapshot)
  | .ok snapshot => do
      Work.note .info "target is ready"
        [("target_name", .text target.name), ("phase", .text snapshot.phase.name)]
      return .ok snapshot
  | .error cause => do
      let failure ← describeFailure target settings cause
      Work.note .warn "target did not become ready"
        [("target_name", .text target.name), ("created", .flag failure.wasCreated),
          ("error", .text cause.message)]
      return .error (.notReady failure)

/-- Waits for the target to exist and then to be ready, each for as long as the settings say. -/
def waitUntilReady (target : Target) (settings : Settings) : Attempt Snapshot := do
  let existence ← Attempt.ofExcept (readinessPoller settings "pod existence")
  let ready ← Attempt.ofExcept (readinessPoller settings "pod ready")
  Attempt.ofWork do
    conclude target settings (← (waitWith target existence ready).outcome)

def connectionProbe : Command := Command.ofWords ["echo", "connection_test"]

def waitForConnection (target : Target) (container : String) (settings : Settings) :
    Attempt Unit := do
  let poller ← Attempt.ofExcept
    (Poller.ofBounds "exec connection" (Settings.millis settings.connectionPollInterval)
      (Settings.millis settings.connectionTimeout))
  let poller := ((poller.ignoring .execution).ignoring .api).ignoring .connection
  poller.run do
    let _ ← target.execute container connectionProbe.argv
    return .satisfied ()
  Work.note .info "exec connection established"
    [("target_name", .text target.name), ("container", .text container)]

end NotebookCheck.Readiness
