import NotebookCheck.Docker.Daemon
import NotebookCheck.Docker.Inspection
import NotebookCheck.Text.Blank

namespace NotebookCheck.Docker

open Http Json Text

structure Output where
  stdout : String := ""
  stderr : String := ""
deriving Repr, DecidableEq, Inhabited

namespace Output

def streamFault (reason : String) : Fault := .api s!"output stream failed: {reason}"

def add (o : Output) : Message → Output
  | .stdout bytes | .console bytes => { o with stdout := o.stdout ++ Utf8.decodeLossy bytes }
  | .stderr bytes => { o with stderr := o.stderr ++ Utf8.decodeLossy bytes }
  | .stdin _ => o

/-- The output of a stream of messages, if the stream does not break off within one. -/
def ofMessages : Option (List Message) → Except Fault Output
  | some messages => .ok (messages.foldl add {})
  | none => .error (streamFault "bytes remaining on stream")

end Output

def execOutcome (name : String) (output : Output) (exitCode : Option Int) :
    Except Fault String :=
  match exitCode with
  | none => .ok output.stdout
  | some code =>
      if code = 0 then .ok output.stdout
      else
        let complaint := trim output.stderr
        .error (.execution name
          (s!"command exited with code {code}" ++
            if complaint.isEmpty then "" else ": " ++ complaint))

def exitCode? (j : Json) : Option Int :=
  (j.field? "ExitCode").bind (intIn? Int64.minValue.toInt Int64.maxValue.toInt)

def inspected (r : Response) : Except QueryError (Option Inspection) :=
  match r.accepted with
  | .ok bytes => ((Inspection.read bytes).mapError .flawed).map some
  | .error e => if e.isAbsence then .ok none else .error e

def snapshot (daemon : Daemon) (name : String) : Exchange Query (Option Snapshot) := do
  let inspection ← ask daemon s!"inspect container '{name}'" (.container name) inspected
  return inspection.map (·.snapshot name)

def execute (daemon : Daemon) (name : String) (argv : List String) : Exchange Query String := do
  let created ← ask daemon "create exec" (.createExec name argv) (·.value createdExec)
  let id := ((created.field? "Id").bind text?).getD ""
  let arrivals ← ask daemon "start exec" (.startExec id) (·.session)
  let output ← Exchange.ofExcept (Output.ofMessages (Message.ofExec? arrivals))
  let ended ← ask daemon "inspect exec" (.exec id) (·.value Docker.exec)
  Exchange.ofExcept (execOutcome name output (exitCode? ended))

def logged (r : Response) : Except Fault Output :=
  match r.accepted with
  | .ok _ => Output.ofMessages (Message.ofLog? r.stream)
  | .error e => .error (Output.streamFault e.text)

/-- The last lines of a container's log: all of one channel before all of the other. -/
def log (daemon : Daemon) (name : String) (lines : Nat) : Exchange Query String := do
  match logged (← Exchange.ask daemon (.logs name lines)) with
  | .ok output => return output.stdout ++ output.stderr
  | .error fault => Exchange.ofExcept (.error (.diagnosticCollection fault.message))

def target (daemon : Daemon) (name : String) : Target where
  name := name
  onSnapshot _ := .after 0 (snapshot daemon name).result
  onExecute _ _ argv := .after 0 (execute daemon name argv).result
  onLog _ _ lines := .after 0 (log daemon name lines).result

def socketScheme : String := "unix://"

def defaultSocket : String := "unix:///var/run/docker.sock"

def socketPath (address : String) : String :=
  if address.startsWith socketScheme then
    String.ofList (address.toList.drop socketScheme.length)
  else address

/-- The address of the daemon of this machine: the one in the environment if it is a socket's. -/
def localSocket (address : Option String) : String :=
  match address with
  | some address => if address.startsWith socketScheme then address else defaultSocket
  | none => defaultSocket

def checkSocket (isThere : String → Bool) (address : String) : Except String Unit :=
  if isThere (socketPath address) then .ok ()
  else .error ("Socket not found: " ++ socketPath address)

def connectAt (isThere : String → Bool) (daemon : Daemon) (address name : String) :
    Except Fault Target :=
  match checkSocket isThere address with
  | .ok () => .ok (target daemon name)
  | .error reason =>
      .error (.connection s!"failed to connect to docker at {address}: {reason}")

def connectLocal (isThere : String → Bool) (daemon : Daemon) (address : Option String)
    (name : String) : Except Fault Target :=
  match checkSocket isThere (localSocket address) with
  | .ok () => .ok (target daemon name)
  | .error reason => .error (.connection s!"failed to connect to docker: {reason}")

end NotebookCheck.Docker
