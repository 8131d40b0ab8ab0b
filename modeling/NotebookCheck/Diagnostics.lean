import NotebookCheck.Target

namespace NotebookCheck

inductive WaitingCategory where
  | imagePullBackOff
  | crashLoopBackOff
  | errImagePull
  | other
deriving Repr, DecidableEq, Inhabited

namespace WaitingCategory

def ofReason : Option String → WaitingCategory
  | some "ImagePullBackOff" => imagePullBackOff
  | some "CrashLoopBackOff" => crashLoopBackOff
  | some "ErrImagePull" => errImagePull
  | _ => other

def name : WaitingCategory → String
  | imagePullBackOff => "ImagePullBackOff"
  | crashLoopBackOff => "CrashLoopBackOff"
  | errImagePull => "ErrImagePull"
  | other => "Other"

def guidance : WaitingCategory → Option (String × String)
  | imagePullBackOff =>
      some ("ImagePullBackOff: Failed to pull custom image",
        "Verify registry access and image URL")
  | crashLoopBackOff =>
      some ("CrashLoopBackOff: Container is crashing", "Check container logs for startup errors")
  | errImagePull =>
      some ("ErrImagePull: Cannot pull image", "Verify image exists and cluster has pull access")
  | other => none

end WaitingCategory

namespace Diagnostics

/-- What is said about the state of a container, nothing if there is nothing to worry about. -/
def stateText : ContainerState → String
  | .waiting reason message =>
      let message := message.getD ""
      match (WaitingCategory.ofReason reason).guidance with
      | some (meaning, hint) => s!"\n    ! {meaning}\n    {hint}\n    Message: {message}"
      | none =>
          "\n    Waiting Reason: " ++ reason.getD "unknown" ++ "\n    Message: " ++ message
  | .terminated exitCode reason =>
      s!"\n    ! Container terminated\n    Exit Code: {exitCode.toInt}\n    Reason: " ++
        reason.getD "unknown"
  | .running => ""
  | .unknown => ""

def statusText (s : ContainerStatus) : String :=
  s!"\n  - {s.name}: ready={s.ready}" ++ stateText s.state

def statusesText (s : Snapshot) : String :=
  let phase := "Phase: " ++ s.phase.name
  if s.statuses.isEmpty then phase
  else phase ++ "\n\nContainer Statuses:" ++ Text.join "" (s.statuses.map statusText)

/-- How a target is, with the last lines of the log of its first declared container. -/
def failureDetails (target : Target) (s : Snapshot) (lines : Nat) : Work String := do
  let details := statusesText s
  match s.containers with
  | [] => return details ++ "\n\n(No containers declared)"
  | first :: _ =>
      match ← (target.log first.name lines).outcome with
      | .ok logs =>
          if logs.isEmpty then return details
          else return details ++ s!"\n\nRecent Logs (last {lines} lines):\n{logs}"
      | .error fault =>
          Work.note .debug "log retrieval failed"
            [("container", .text first.name), ("error", .text fault.message)]
          return details ++ "\n\n(Could not retrieve pod logs)"

end Diagnostics

end NotebookCheck
