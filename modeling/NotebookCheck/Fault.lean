import NotebookCheck.Number.Decimal
import NotebookCheck.Snapshot

namespace NotebookCheck

open Number Text

inductive FaultKind where
  | validation
  | precondition
  | execution
  | timeout
  | diagnosticCollection
  | readiness
  | api
  | connection
  | config
deriving Repr, DecidableEq, Inhabited

def FaultKind.names : List (FaultKind × String) :=
  [(.validation, "validation"), (.precondition, "precondition"), (.execution, "execution"),
    (.timeout, "timeout"), (.diagnosticCollection, "diagnostic_collection"),
    (.readiness, "readiness"), (.api, "api"), (.connection, "connection"), (.config, "config")]

def FaultKind.name (kind : FaultKind) : String :=
  (FaultKind.names.lookup kind).getD ""

inductive Precondition where
  | targetMissing (target : String)
  | notRunning (target phase : String)
  | containerNotFound (target container : String) (available : List String)
deriving Repr, DecidableEq, Inhabited

def Precondition.message : Precondition → String
  | targetMissing target => s!"target '{target}' does not exist"
  | notRunning target phase => s!"target '{target}' is not in Running state (current: {phase})"
  | containerNotFound target container available =>
      s!"container '{container}' not found in target '{target}'. Available containers: [" ++
        join ", " available ++ "]"

/-- How a target stood when it did not become ready in time; a target that was never created has
no phase. -/
structure ReadinessFailure where
  target : String
  phase : Option Phase
  details : Option String
  cause : String
  timeout : Nat
deriving Repr, DecidableEq, Inhabited

namespace ReadinessFailure

def wasCreated (f : ReadinessFailure) : Bool := f.phase.isSome

def message (f : ReadinessFailure) : String :=
  match f.phase with
  | none =>
      s!"'{f.target}' was not created. Check notebook controller logs. (cause: {f.cause})"
  | some phase =>
      let details :=
        match f.details with
        | some details => "\nError Details:\n" ++ details
        | none => ""
      s!"'{f.target}' failed to reach Ready state within {f.timeout / 1000}s.\n" ++
        "Pod Phase: " ++ phase.name ++ details ++ "\nOriginal Error: " ++ f.cause

end ReadinessFailure

inductive Fault where
  | validation (message : String)
  | precondition (failure : Precondition)
  | execution (container reason : String)
  | timeout (operation : String) (elapsed budget attempts : Nat)
  | diagnosticCollection (message : String)
  | notReady (failure : ReadinessFailure)
  | api (message : String)
  | connection (message : String)
  | config (field reason : String)
deriving Repr, DecidableEq, Inhabited

namespace Fault

def kind : Fault → FaultKind
  | validation _ => .validation
  | precondition _ => .precondition
  | execution _ _ => .execution
  | timeout _ _ _ _ => .timeout
  | diagnosticCollection _ => .diagnosticCollection
  | notReady _ => .readiness
  | api _ => .api
  | connection _ => .connection
  | config _ _ => .config

def message : Fault → String
  | validation message => "validation error: " ++ message
  | precondition failure => "precondition failed: " ++ failure.message
  | execution container reason => s!"execution failed in container '{container}': {reason}"
  | timeout operation elapsed budget attempts =>
      operation ++ " timed out after " ++ (Binary64.ofMillis elapsed).hundredths ++
        s!"s (limit: {budget / 1000}s, attempts: {attempts})"
  | diagnosticCollection message => "diagnostic collection failed: " ++ message
  | notReady failure => failure.message
  | api message => "api error: " ++ message
  | connection message => "connection error: " ++ message
  | config field reason => s!"config error: {field}: {reason}"

end Fault

end NotebookCheck
