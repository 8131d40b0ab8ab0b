import NotebookCheck.Cluster.Shapes.Pod
import NotebookCheck.Json.Reader
import NotebookCheck.Json.Record
import NotebookCheck.Snapshot.Encoding

namespace NotebookCheck.Cluster

open Json

/-- Quantities that a pod's container asks for and may use, where it says so. -/
structure PodResources where
  requests : Option (SortedMap String) := none
  limits : Option (SortedMap String) := none
deriving DecidableEq, Inhabited

structure PodContainer where
  name : String
  image : Option String := none
  resources : Option PodResources := none
deriving DecidableEq, Inhabited

/-- What a pod says about the state of a container: any of the three kinds, or none. -/
structure PodContainerState where
  waiting : Option (Option String × Option String) := none
  terminated : Option (Int32 × Option String) := none
  running : Bool := false
deriving DecidableEq, Inhabited

structure PodContainerStatus where
  name : String
  ready : Bool
  state : Option PodContainerState := none
deriving DecidableEq, Inhabited

structure PodStatus where
  phase : Option String := none
  conditions : List Condition := []
  statuses : List PodContainerStatus := []
deriving DecidableEq, Inhabited

structure Pod where
  name : Option String := none
  containers : List PodContainer := []
  status : Option PodStatus := none
deriving DecidableEq, Inhabited

def PodContainer.declared (c : PodContainer) : Container where
  name := c.name
  image := c.image
  resources :=
    match c.resources with
    | none => {}
    | some r => { requests := r.requests.getD .empty, limits := r.limits.getD .empty }

def PodContainerState.known (s : PodContainerState) : ContainerState :=
  match s.waiting, s.terminated with
  | some (reason, message), _ => .waiting reason message
  | none, some (exitCode, reason) => .terminated exitCode reason
  | none, none => if s.running then .running else .unknown

def PodContainerStatus.known (s : PodContainerStatus) : ContainerStatus where
  name := s.name
  ready := s.ready
  state := (s.state.map (·.known)).getD .unknown

def Pod.snapshot (p : Pod) : Snapshot where
  name := p.name.getD ""
  phase := ((p.status.bind (·.phase)).map Phase.ofName).getD .pending
  containers := p.containers.map (·.declared)
  statuses := ((p.status.map (·.statuses)).getD []).map (·.known)
  conditions := (p.status.map (·.conditions)).getD []

def PodResources.ofJson (j : Json) : PodResources where
  requests := (j.given? "requests").bind quantitiesOfJson?
  limits := (j.given? "limits").bind quantitiesOfJson?

def PodContainer.ofJson (j : Json) : PodContainer where
  name := (j.textIn? "name").getD ""
  image := j.textIn? "image"
  resources := (j.given? "resources").map .ofJson

def PodContainerState.ofJson (j : Json) : PodContainerState where
  waiting := (j.given? "waiting").map fun w => (w.textIn? "reason", w.textIn? "message")
  terminated := (j.given? "terminated").map fun t =>
    (((t.given? "exitCode").bind exitCode?).getD 0, t.textIn? "reason")
  running := (j.given? "running").isSome

def PodContainerStatus.ofJson (j : Json) : PodContainerStatus where
  name := (j.textIn? "name").getD ""
  ready := ((j.given? "ready").bind bool?).getD false
  state := (j.given? "state").map .ofJson

def conditionOfJson (j : Json) : Condition where
  kind := (j.textIn? "type").getD ""
  status := (j.textIn? "status").getD ""

def PodStatus.ofJson (j : Json) : PodStatus where
  phase := j.textIn? "phase"
  conditions := (j.itemsIn "conditions").map conditionOfJson
  statuses := (j.itemsIn "containerStatuses").map .ofJson

def Pod.ofJson (j : Json) : Pod where
  name := (j.given? "metadata").bind (·.textIn? "name")
  containers := ((j.given? "spec").map (·.itemsIn "containers")).getD [] |>.map .ofJson
  status := (j.given? "status").map .ofJson

def Pod.read (bytes : List UInt8) : Except Flaw Pod :=
  (Json.read Cluster.pod bytes).map ofJson

end NotebookCheck.Cluster
