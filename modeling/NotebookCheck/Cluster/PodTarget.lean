import NotebookCheck.Cluster.Pod
import NotebookCheck.Cluster.Server
import NotebookCheck.Target
import NotebookCheck.Text.Blank

namespace NotebookCheck.Cluster

open Http Json Text

structure ExecStatus where
  status : Option String := none
  message : Option String := none
  reason : Option String := none
deriving Repr, DecidableEq, Inhabited

namespace ExecStatus

def success : String := "Success"

def isSuccess (s : ExecStatus) : Bool := s.status = some success

def cause (s : ExecStatus) : String := (s.message <|> s.reason).getD "command failed"

def ofJson (j : Json) : ExecStatus where
  status := j.textIn? "status"
  message := j.textIn? "message"
  reason := j.textIn? "reason"

def ofBytes? (bytes : List UInt8) : Option ExecStatus :=
  ((read Cluster.status bytes).map ofJson).toOption

end ExecStatus

/-- What came over a session: the bytes on two channels, and the status if it is known. -/
structure Session where
  stdout : List UInt8 := []
  stderr : List UInt8 := []
  status : Option ExecStatus := none
deriving Repr, DecidableEq, Inhabited

namespace Session

def ofFrames : List Frame → Session
  | [] => {}
  | .status [] :: rest => ofFrames rest
  | .status bytes :: _ => { status := ExecStatus.ofBytes? bytes }
  | .stdout bytes :: rest =>
      let s := ofFrames rest
      { s with stdout := bytes ++ s.stdout }
  | .stderr bytes :: rest =>
      let s := ofFrames rest
      { s with stderr := bytes ++ s.stderr }
  | .stdin _ :: rest | .resize _ :: rest => ofFrames rest

def complaint (s : Session) : String :=
  match Utf8.decode s.stderr with
  | .ok text => trim text
  | .error _ => ""

def outcome (container : String) (s : Session) : Except Fault String :=
  match Utf8.decode s.stdout, s.status with
  | .error fault, _ =>
      .error (.execution container s!"failed to read stdout: {fault.message}")
  | .ok text, none => .ok text
  | .ok text, some status =>
      if status.isSuccess then .ok text
      else
        .error (.execution container
          (if s.complaint.isEmpty then status.cause else s.complaint))

end Session

def described (r : Response) : Except QueryError Pod := do
  (Pod.read (Utf8.encode (← r.text))).mapError .flawed

def snapshot (server : Server) (namespaceName name : String) :
    Exchange Query (Option Snapshot) := do
  match ← ask server (.pod namespaceName name) described with
  | .ok pod => return some pod.snapshot
  | .error e =>
      if e.isAbsence then return none
      else
        Exchange.ofExcept
          (.error (.api s!"failed to get pod {namespaceName}/{name}: {e.text}"))

def execute (server : Server) (namespaceName name container : String) (argv : List String) :
    Exchange Query String := do
  match ← ask server (.exec namespaceName name container argv) (·.session) with
  | .ok frames => Exchange.ofExcept ((Session.ofFrames frames).outcome container)
  | .error e => Exchange.ofExcept (.error (.api s!"exec in '{container}' failed: {e.text}"))

def log (server : Server) (namespaceName name container : String) (lines : Nat) :
    Exchange Query String := do
  match ← ask server (.log namespaceName name container lines) (·.text) with
  | .ok text => return text
  | .error e =>
      Exchange.ofExcept
        (.error (.diagnosticCollection s!"failed to get logs for {name}/{container}: {e.text}"))

def target (server : Server) (namespaceName name : String) : Target where
  name := name
  onSnapshot _ := .after 0 (snapshot server namespaceName name).result
  onExecute _ container argv := .after 0 (execute server namespaceName name container argv).result
  onLog _ container lines := .after 0 (log server namespaceName name container lines).result

end NotebookCheck.Cluster
