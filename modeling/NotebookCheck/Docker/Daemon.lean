import NotebookCheck.Docker.Shapes
import NotebookCheck.Docker.Stream
import NotebookCheck.Http.Exchange
import NotebookCheck.Http.Path
import NotebookCheck.Json.Reader
import NotebookCheck.Json.Record

namespace NotebookCheck.Docker

open Http Json Text

inductive Query where
  | container (name : String)
  | createExec (name : String) (argv : List String)
  | startExec (id : String)
  | exec (id : String)
  | logs (name : String) (lines : Nat)
deriving Repr, DecidableEq, Inhabited

def versionName : String := "v1.47"

def sentPath (path : String) : String :=
  let version := "/" ++ versionName
  let walked := walkedPath (version ++ path)
  if walked.startsWith (version ++ "/") then String.ofList (walked.toList.drop version.length)
  else walked

def Query.request : Query → Http.Request
  | container name => { method := .get, path := sentPath s!"/containers/{name}/json" }
  | createExec name argv =>
      { method := .post, path := sentPath s!"/containers/{name}/exec"
        body := some (.object [("AttachStdout", .bool true), ("AttachStderr", .bool true),
          ("Cmd", ofTexts argv)]) }
  | startExec id => { method := .post, path := sentPath s!"/exec/{id}/start" }
  | exec id => { method := .get, path := sentPath s!"/exec/{id}/json" }
  | logs name lines =>
      { method := .get, path := sentPath s!"/containers/{name}/logs"
        query := [("stdout", "true"), ("stderr", "true"), ("tail", toString lines)] }

structure Response where
  status : Nat
  body : List UInt8 := []
  arrivals : List (List UInt8) := []
deriving Repr, DecidableEq, Inhabited

abbrev Daemon : Type := Query → Response

inductive QueryError where
  | refused (status : Nat) (message : String)
  | flawed (flaw : Flaw)
  | noSession
deriving Repr, DecidableEq, Inhabited

def QueryError.isAbsence : QueryError → Bool
  | refused status _ => status = 404
  | _ => false

def QueryError.text : QueryError → String
  | refused status message => s!"Docker responded with status code {status}: {message}"
  | flawed flaw =>
      if flaw.complaint.isEnd then flaw.message
      else "Failed to deserialize JSON: " ++ flaw.message
  | noSession => "no upgrade available"

namespace Response

def isGood (r : Response) : Bool :=
  (200 ≤ r.status && r.status < 300) || r.status = notModified || r.status = switchingProtocols

def content (r : Response) : List UInt8 := if hasBody r.status then r.body else []

def stream (r : Response) : List (List UInt8) := if hasBody r.status then r.arrivals else []

/-- What a daemon says about a query that it refuses: the message in the body, or the body itself
where it has none; a body that breaks off says nothing. -/
def refusal (r : Response) : QueryError :=
  let text := Utf8.decodeLossy r.content
  if text.isEmpty then .refused r.status ""
  else
    match read Docker.refusal (Utf8.encode text) with
    | .ok j => .refused r.status (((j.field? "message").bind text?).getD "")
    | .error flaw =>
        if flaw.complaint.isEnd then .flawed flaw else .refused r.status text

def accepted (r : Response) : Except QueryError (List UInt8) :=
  if r.isGood then .ok r.content else .error r.refusal

def value (shape : Shape) (r : Response) : Except QueryError Json := do
  (read shape (← r.accepted)).mapError .flawed

def session (r : Response) : Except QueryError (List (List UInt8)) := do
  let _ ← r.accepted
  if r.status = switchingProtocols then return r.arrivals else throw .noSession

end Response

def QueryError.fault (activity : String) (e : QueryError) : Fault :=
  .api s!"{activity} failed: {e.text}"

/-- Makes a query and reads the response, in an activity that is named if that comes to nothing. -/
def ask {α : Type} (daemon : Daemon) (activity : String) (query : Query)
    (read : Response → Except QueryError α) : Exchange Query α := do
  let response ← Exchange.ask daemon query
  Exchange.ofExcept ((read response).mapError (·.fault activity))

end NotebookCheck.Docker
