import NotebookCheck.Docker.Shapes
import NotebookCheck.Json.Reader
import NotebookCheck.Json.Record
import NotebookCheck.Readiness

namespace NotebookCheck.Docker

open Json

/-- What the daemon says about a container, as far as it matters here. -/
structure Inspection where
  status : Option Status := none
  exitCode : Option Int64 := none
  error : Option String := none
  health : Option Health := none
  image : Option String := none
  nanoCpus : Option Int64 := none
  memory : Option Int64 := none
  memoryReservation : Option Int64 := none
deriving DecidableEq, Inhabited

/-- An exit code in 32 bits; a missing one counts as zero, and so does one that does not fit. -/
def narrowExitCode (code : Option Int64) : Int32 :=
  match code with
  | none => 0
  | some c =>
      if Int32.minValue.toInt ≤ c.toInt && c.toInt ≤ Int32.maxValue.toInt then
        Int32.ofInt c.toInt
      else 0

def nonempty? (s : Option String) : Option String := s.filter fun s => !s.isEmpty

def positive? (n : Option Int64) : Option Int := (n.map (·.toInt)).filter (0 < ·)

namespace Inspection

def phaseAndState (i : Inspection) : Phase × ContainerState :=
  let status := i.status.getD .empty
  let exitCode := narrowExitCode i.exitCode
  match status with
  | .running => (.running, .running)
  | .created | .restarting => (.pending, .waiting (some status.name) (nonempty? i.error))
  | .exited | .dead =>
      (if exitCode = 0 then .succeeded else .failed, .terminated exitCode (nonempty? i.error))
  | other => (.unknown other.name, .unknown)

def isHealthy (i : Inspection) : Bool :=
  i.health ≠ some .starting && i.health ≠ some .unhealthy

def isReady (i : Inspection) : Bool := i.phaseAndState.1.isRunning && i.isHealthy

def resources (i : Inspection) : Resources :=
  let put (name : String) (quantity : Option String) (map : SortedMap String) :=
    match quantity with
    | none => map
    | some q => map.insert name q
  { requests := put "memory" ((positive? i.memoryReservation).map toString) .empty
    limits :=
      put "memory" ((positive? i.memory).map toString)
        (put "cpu" ((positive? i.nanoCpus).map fun n => toString (n / 1000000) ++ "m") .empty) }

def snapshot (i : Inspection) (name : String) : Snapshot where
  name := name
  phase := i.phaseAndState.1
  containers := [{ name, image := i.image, resources := i.resources }]
  statuses := [{ name, ready := i.isReady, state := i.phaseAndState.2 }]
  conditions :=
    [⟨Readiness.readyCondition, if i.isReady then Readiness.conditionTrue else "False"⟩]

def textAt? (names : List String) (j : Json) : Option String := (j.at? names).bind text?

def longAt? (names : List String) (j : Json) : Option Int64 :=
  ((j.at? names).bind (intIn? Int64.minValue.toInt Int64.maxValue.toInt)).map Int64.ofInt

def ofJson (j : Json) : Inspection where
  status := (textAt? ["State", "Status"] j).bind Status.ofName?
  exitCode := longAt? ["State", "ExitCode"] j
  error := textAt? ["State", "Error"] j
  health := (textAt? ["State", "Health", "Status"] j).bind Health.ofName?
  image := textAt? ["Config", "Image"] j
  nanoCpus := longAt? ["HostConfig", "NanoCpus"] j
  memory := longAt? ["HostConfig", "Memory"] j
  memoryReservation := longAt? ["HostConfig", "MemoryReservation"] j

def read (bytes : List UInt8) : Except Flaw Inspection :=
  (Json.read Docker.container bytes).map ofJson

end Inspection

end NotebookCheck.Docker
