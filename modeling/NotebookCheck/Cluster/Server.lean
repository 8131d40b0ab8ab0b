import NotebookCheck.Cluster.Shapes.Metadata
import NotebookCheck.Http.Address
import NotebookCheck.Http.Exchange
import NotebookCheck.Json.Reader
import NotebookCheck.Json.Record
import NotebookCheck.Text.Form

namespace NotebookCheck.Cluster

open Http Json Text

inductive Query where
  | pod (namespaceName name : String)
  | exec (namespaceName name container : String) (argv : List String)
  | log (namespaceName name container : String) (lines : Nat)
deriving Repr, DecidableEq, Inhabited

def podPath (namespaceName name : String) : String :=
  s!"/api/v1/namespaces/{namespaceName}/pods/{name}"

def joined (pairs : List (String × String)) : String :=
  join "&" (pairs.map Form.encodePair)

def Query.place : Query → String
  | pod namespaceName name => podPath namespaceName name
  | exec namespaceName name container argv =>
      podPath namespaceName name ++ "/exec?&" ++
        joined ([("stdout", "true"), ("stderr", "true"), ("container", container)] ++
          argv.map fun word => ("command", word))
  | log namespaceName name container lines =>
      podPath namespaceName name ++ "/log?&" ++
        joined [("container", container), ("tailLines", toString lines)]

inductive RequestFlaw where
  | unnamed
  | address (flaw : AddressFlaw)
deriving Repr, DecidableEq, Inhabited

def RequestFlaw.message : RequestFlaw → String
  | unnamed => "failed to validate request: A non-empty name is required"
  | address flaw => "failed to build request: " ++ flaw.message

def Query.isUnnamed : Query → Bool
  | pod _ name => name.isEmpty
  | _ => false

def Query.request (query : Query) : Except RequestFlaw Http.Request :=
  if query.isUnnamed then .error .unnamed
  else
    match Address.read query.place with
    | .ok a =>
        .ok { method := .get, path := a.path, query := Form.decodePairs (a.query.getD "") }
    | .error flaw => .error (.address flaw)

inductive Frame where
  | stdin (bytes : List UInt8)
  | stdout (bytes : List UInt8)
  | stderr (bytes : List UInt8)
  | status (bytes : List UInt8)
  | resize (bytes : List UInt8)
deriving Repr, DecidableEq, Inhabited

structure Response where
  status : Nat
  body : List UInt8 := []
  frames : List Frame := []
deriving Repr, DecidableEq, Inhabited

abbrev Server : Type := Query → Response

structure ApiError where
  status : String
  message : String
  reason : String
  code : Nat
deriving Repr, DecidableEq, Inhabited

namespace ApiError

def notFound : String := "NotFound"

def text (e : ApiError) : String :=
  s!"ApiError: {e.message}: {e.reason} (ErrorResponse \x7b status: " ++ quoted e.status ++
    ", message: " ++ quoted e.message ++ ", reason: " ++ quoted e.reason ++
    s!", code: {e.code} \x7d)"

def ofJson (j : Json) : ApiError where
  status := ((j.field? "status").bind text?).getD ""
  message := ((j.field? "message").bind text?).getD ""
  reason := ((j.field? "reason").bind text?).getD ""
  code := ((j.field? "code").bind (natBelow? UInt16.size)).getD 0

def ofBody (code : Nat) (body : String) : ApiError :=
  match read refusal (Utf8.encode body) with
  | .ok j => ofJson j
  | .error _ => {
      status := statusLine code
      message := quoted body
      reason := "Failed to parse error data"
      code }

end ApiError

inductive QueryError where
  | notMade (flaw : RequestFlaw)
  | api (e : ApiError)
  | encoding (fault : Utf8.Fault)
  | flawed (flaw : Flaw)
  | noSession (status : Nat)
deriving Repr, DecidableEq, Inhabited

def QueryError.isAbsence : QueryError → Bool
  | api e => e.reason = ApiError.notFound
  | _ => false

def QueryError.text : QueryError → String
  | notMade flaw => "Failed to build request: " ++ flaw.message
  | api e => e.text
  | encoding fault => "UTF-8 Error: " ++ fault.message
  | flawed flaw => "Error deserializing response: " ++ flaw.message
  | noSession status =>
      "failed to upgrade to a WebSocket connection: failed to switch protocol: " ++
        statusLine status

def Response.content (r : Response) : List UInt8 := if hasBody r.status then r.body else []

def Response.text (r : Response) : Except QueryError String :=
  match Utf8.decode r.content with
  | .error fault => .error (.encoding fault)
  | .ok text => if isErrorStatus r.status then .error (.api (.ofBody r.status text)) else .ok text

def Response.session (r : Response) : Except QueryError (List Frame) :=
  if r.status = switchingProtocols then .ok r.frames else .error (.noSession r.status)

def ask {α : Type} (server : Server) (query : Query) (read : Response → Except QueryError α) :
    Exchange Query (Except QueryError α) :=
  match query.request with
  | .error flaw => pure (.error (.notMade flaw))
  | .ok _ => do return read (← Exchange.ask server query)

end NotebookCheck.Cluster
