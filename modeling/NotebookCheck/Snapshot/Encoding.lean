import NotebookCheck.Json.Record
import NotebookCheck.Snapshot

namespace NotebookCheck

open Json

def exitCode? (j : Json) : Option Int32 :=
  (intIn? Int32.minValue.toInt Int32.maxValue.toInt j).map Int32.ofInt

namespace Phase

/-- A phase as JSON: its name, with a field around a name that is none of the usual ones. -/
def toJson : Phase → Json
  | unknown name => .object [("Unknown", .string name)]
  | phase => .string phase.name

def ofJson? (j : Json) : Option Phase := do
  let (name, carried) ← variant? j
  if name = "Unknown" then return unknown (← carried >>= text?)
  else if carriesNothing carried then
    if name = "Pending" then return pending
    else if name = "Running" then return running
    else if name = "Succeeded" then return succeeded
    else if name = "Failed" then return failed
    else none
  else none

end Phase

def quantitiesToJson (map : SortedMap String) : Json :=
  .object (map.entries.map fun e => (e.1, .string e.2))

def quantitiesOfJson? (j : Json) : Option (SortedMap String) :=
  (fields? text? j).map SortedMap.ofList

def Resources.toJson (r : Resources) : Json :=
  .object [("requests", quantitiesToJson r.requests), ("limits", quantitiesToJson r.limits)]

def Resources.ofJson? (j : Json) : Option Resources := do
  match ← slots? ["requests", "limits"] j with
  | [requests, limits] =>
      return {
        requests := ← requests.defaulted .empty quantitiesOfJson?
        limits := ← limits.defaulted .empty quantitiesOfJson? }
  | _ => none

def Container.toJson (c : Container) : Json :=
  .object [("name", .string c.name), ("image", ofText? c.image),
    ("resources", c.resources.toJson)]

def Container.ofJson? (j : Json) : Option Container := do
  match ← slots? ["name", "image", "resources"] j with
  | [name, image, resources] =>
      return {
        name := ← name.required text?
        image := ← image.nullable text?
        resources := ← resources.defaulted {} Resources.ofJson? }
  | _ => none

namespace ContainerState

def toJson : ContainerState → Json
  | waiting reason message =>
      .object [("Waiting", .object [("reason", ofText? reason), ("message", ofText? message)])]
  | running => .string "Running"
  | terminated exitCode reason =>
      .object [("Terminated",
        .object [("exit_code", .int exitCode.toInt), ("reason", ofText? reason)])]
  | unknown => .string "Unknown"

def ofJson? (j : Json) : Option ContainerState := do
  let (name, carried) ← variant? j
  if name = "Waiting" then
    match ← slots? ["reason", "message"] (← carried) with
    | [reason, message] =>
        return waiting (← reason.nullable text?) (← message.nullable text?)
    | _ => none
  else if name = "Terminated" then
    match ← slots? ["exit_code", "reason"] (← carried) with
    | [exitCode, reason] =>
        return terminated (← exitCode.required exitCode?) (← reason.nullable text?)
    | _ => none
  else if carriesNothing carried then
    if name = "Running" then return running
    else if name = "Unknown" then return unknown
    else none
  else none

end ContainerState

def ContainerStatus.toJson (s : ContainerStatus) : Json :=
  .object [("name", .string s.name), ("ready", .bool s.ready), ("state", s.state.toJson)]

def ContainerStatus.ofJson? (j : Json) : Option ContainerStatus := do
  match ← slots? ["name", "ready", "state"] j with
  | [name, ready, state] =>
      return {
        name := ← name.required text?
        ready := ← ready.required bool?
        state := ← state.required ContainerState.ofJson? }
  | _ => none

def Condition.toJson (c : Condition) : Json :=
  .object [("kind", .string c.kind), ("status", .string c.status)]

def Condition.ofJson? (j : Json) : Option Condition := do
  match ← slots? ["kind", "status"] j with
  | [kind, status] =>
      return { kind := ← kind.required text?, status := ← status.required text? }
  | _ => none

def Snapshot.toJson (s : Snapshot) : Json :=
  .object [("name", .string s.name), ("phase", s.phase.toJson),
    ("containers", .array (s.containers.map Container.toJson)),
    ("container_statuses", .array (s.statuses.map ContainerStatus.toJson)),
    ("conditions", .array (s.conditions.map Condition.toJson))]

def Snapshot.ofJson? (j : Json) : Option Snapshot := do
  match ← slots? ["name", "phase", "containers", "container_statuses", "conditions"] j with
  | [name, phase, containers, statuses, conditions] =>
      return {
        name := ← name.required text?
        phase := ← phase.required Phase.ofJson?
        containers := ← containers.required (list? Container.ofJson?)
        statuses := ← statuses.required (list? ContainerStatus.ofJson?)
        conditions := ← conditions.required (list? Condition.ofJson?) }
  | _ => none

end NotebookCheck
