import NotebookCheck.Cluster.Connection
import NotebookCheck.CommandLine.Run
import NotebookCheck.Docker.Container

namespace NotebookCheck.CommandLine

open Text

structure Machine where
  file : String → File
  env : Configuration.Environment
  styled : Bool
  isSocket : String → Bool
  daemon : Docker.Daemon
  serverAt : String → Cluster.Server

namespace Machine

def socketVariable : String := "DOCKER_HOST"

def kubeconfigVariable : String := "KUBECONFIG"

def connect (m : Machine) : Backend → Except Fault Target
  | .container name => Docker.connectLocal m.isSocket m.daemon (m.env socketVariable) name
  | .pod namespaceName context name =>
      Cluster.connect m.serverAt (m.env kubeconfigVariable) m.file context namespaceName name

def surroundings (m : Machine) : Surroundings where
  file := m.file
  env := m.env
  styled := m.styled
  connect backend := Attempt.ofExcept (m.connect backend)

end Machine

structure Ending where
  stdout : String
  stderr : String
  exitCode : Nat
deriving Repr, DecidableEq, Inhabited

def printed (entries : List Entry) : String :=
  join "" (entries.filterMap fun
    | .print text => some text
    | _ => none)

def failureLine (styled : Bool) (f : Failure) : String :=
  line (Style.boldRed.paint styled "error:" ++ " " ++ f.message)

/-- What the program leaves once it has done what a command line asks for; nothing if it never
ends. -/
def Invocation.ending? (i : Invocation) (m : Machine) : Option Ending :=
  let t := (i.run m.surroundings).run ⟨0, []⟩
  t.value.map fun result =>
    match result with
    | .ok () => { stdout := printed t.entries, stderr := "", exitCode := 0 }
    | .error f =>
        { stdout := printed t.entries, stderr := failureLine m.styled f, exitCode := f.exitCode }

end NotebookCheck.CommandLine
