import NotebookCheck.Target

namespace NotebookCheck

inductive ResourceField where
  | cpuRequest
  | memoryRequest
  | cpuLimit
  | memoryLimit
deriving Repr, DecidableEq, Inhabited

namespace Sidecar

def containerName : String := "kube-rbac-proxy"

def annotationStart : String := "notebooks.opendatahub.io/auth-sidecar-"

end Sidecar

namespace ResourceField

def all : List ResourceField := [cpuRequest, memoryRequest, cpuLimit, memoryLimit]

def annotationSuffix : ResourceField → String
  | cpuRequest => "cpu-request"
  | memoryRequest => "memory-request"
  | cpuLimit => "cpu-limit"
  | memoryLimit => "memory-limit"

def annotationKey (f : ResourceField) : String :=
  Sidecar.annotationStart ++ f.annotationSuffix

def resource : ResourceField → String
  | cpuRequest | cpuLimit => "cpu"
  | memoryRequest | memoryLimit => "memory"

def isLimit : ResourceField → Bool
  | cpuLimit | memoryLimit => true
  | cpuRequest | memoryRequest => false

def label : ResourceField → String
  | cpuRequest => "CPU request"
  | memoryRequest => "memory request"
  | cpuLimit => "CPU limit"
  | memoryLimit => "memory limit"

def ofSuffix? (suffix : String) : Option ResourceField :=
  all.find? (·.annotationSuffix = suffix)

def quantity? (f : ResourceField) (r : Resources) : Option String :=
  (if f.isLimit then r.limits else r.requests).get? f.resource

end ResourceField

namespace Sidecar

def dropStart? (start s : String) : Option String :=
  if start.toList.isPrefixOf s.toList then
    some (String.ofList (s.toList.drop start.length))
  else none

structure Expected where
  cpuRequest : Option String := none
  memoryRequest : Option String := none
  cpuLimit : Option String := none
  memoryLimit : Option String := none
deriving Repr, DecidableEq, Inhabited

namespace Expected

def get? (e : Expected) : ResourceField → Option String
  | .cpuRequest => e.cpuRequest
  | .memoryRequest => e.memoryRequest
  | .cpuLimit => e.cpuLimit
  | .memoryLimit => e.memoryLimit

def set (e : Expected) (f : ResourceField) (value : String) : Expected :=
  match f with
  | .cpuRequest => { e with cpuRequest := some value }
  | .memoryRequest => { e with memoryRequest := some value }
  | .cpuLimit => { e with cpuLimit := some value }
  | .memoryLimit => { e with memoryLimit := some value }

def size (e : Expected) : Nat := ResourceField.all.countP fun f => (e.get? f).isSome

def annotate (e : Expected) (pair : String × String) : Except Fault Expected :=
  match dropStart? annotationStart pair.1 with
  | none => .ok e
  | some suffix =>
      match ResourceField.ofSuffix? suffix with
      | none => .error (.validation s!"unknown auth sidecar annotation '{pair.1}'")
      | some f => .ok (e.set f (Text.trim pair.2))

def ofAnnotations (annotations : List (String × String)) : Except Fault Expected := do
  let e ← annotations.foldlM annotate {}
  if e.size = 0 then .error (.validation s!"no '{annotationStart}*' annotations given")
  else .ok e

end Expected

structure Mismatch where
  field : ResourceField
  expected : String
  actual : Option String
deriving Repr, DecidableEq, Inhabited

def Mismatch.message (m : Mismatch) : String :=
  s!"Expected {m.field.label} '{m.expected}', got '" ++ m.actual.getD "<unset>" ++ "'"

def mismatch? (r : Resources) (e : Expected) (f : ResourceField) : Option Mismatch :=
  match e.get? f with
  | none => none
  | some expected =>
      let actual := f.quantity? r
      if actual = some expected then none else some ⟨f, expected, actual⟩

def mismatches (s : Snapshot) (e : Expected) : Except Fault (List Mismatch) :=
  match s.container? containerName with
  | none =>
      .error (.precondition (.containerNotFound s.name containerName s.containerNames))
  | some sidecar => .ok (ResourceField.all.filterMap (mismatch? sidecar.resources e))

def check (s : Snapshot) (e : Expected) : Attempt (List Mismatch) := do
  let found ← Attempt.ofExcept (mismatches s e)
  found.forM fun m =>
    Work.note .warn m.message [("target_name", .text s.name), ("field", .text m.field.label)]
  return found

end Sidecar

end NotebookCheck
