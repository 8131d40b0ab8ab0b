import NotebookCheck.SortedMap
import NotebookCheck.Text.Blank

namespace NotebookCheck

open Text

/-- Where a target is in its life.  A phase that is none of the usual ones keeps its name. -/
inductive Phase where
  | pending
  | running
  | succeeded
  | failed
  | unknown (name : String)
deriving Repr, DecidableEq, Inhabited

namespace Phase

def ofName (name : String) : Phase :=
  if name = "Pending" then pending
  else if name = "Running" then running
  else if name = "Succeeded" then succeeded
  else if name = "Failed" then failed
  else unknown name

def name : Phase → String
  | pending => "Pending"
  | running => "Running"
  | succeeded => "Succeeded"
  | failed => "Failed"
  | unknown name => name

def isRunning : Phase → Bool
  | running => true
  | _ => false

end Phase

/-- Quantities by resource name: what a container asks for and what it may use at most. -/
structure Resources where
  requests : SortedMap String := .empty
  limits : SortedMap String := .empty
deriving DecidableEq, Inhabited

structure Container where
  name : String
  image : Option String := none
  resources : Resources := {}
deriving DecidableEq, Inhabited

inductive ContainerState where
  | waiting (reason message : Option String)
  | running
  | terminated (exitCode : Int32) (reason : Option String)
  | unknown
deriving Repr, DecidableEq, Inhabited

structure ContainerStatus where
  name : String
  ready : Bool
  state : ContainerState
deriving Repr, DecidableEq, Inhabited

structure Condition where
  kind : String
  status : String
deriving Repr, DecidableEq, Inhabited

structure Snapshot where
  name : String
  phase : Phase
  containers : List Container := []
  statuses : List ContainerStatus := []
  conditions : List Condition := []
deriving DecidableEq, Inhabited

namespace Snapshot

def containerNames (s : Snapshot) : List String :=
  s.containers.map (·.name)

def container? (s : Snapshot) (name : String) : Option Container :=
  s.containers.find? (·.name = name)

def conditionStatus? (s : Snapshot) (kind : String) : Option String :=
  (s.conditions.find? (·.kind = kind)).map (·.status)

def hasCondition (s : Snapshot) (kind status : String) : Bool :=
  s.conditionStatus? kind = some status

def summary (s : Snapshot) : String :=
  s!"{s.name} phase={s.phase.name} containers=[" ++ join "," s.containerNames ++ "]"

end Snapshot

end NotebookCheck
