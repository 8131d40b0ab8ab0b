import NotebookCheck.Problem

namespace NotebookCheck.CommandLine

inductive Failure where
  | config (reason : String)
  | command (message : String)
  | precondition (message : String)
  | verification (summary : String)
  | timeout (message : String)
  | core (problem : Problem)
deriving Repr, DecidableEq, Inhabited

namespace Failure

def message : Failure → String
  | config reason => "configuration error: " ++ reason
  | command message | precondition message | timeout message => message
  | verification summary => "verification failed: " ++ summary
  | core problem => problem.message

def exitCode : Failure → Nat
  | command _ => 1
  | config _ => 2
  | precondition _ => 4
  | verification _ => 5
  | timeout _ => 6
  | core (.config _) => 2
  | core (.target _) => 1
  | core (.io _) => 10

def ofFault (fault : Fault) : Failure :=
  match fault.kind with
  | .validation | .precondition => precondition fault.message
  | .timeout | .readiness => timeout fault.message
  | .config => config fault.message
  | .execution | .diagnosticCollection | .api | .connection => command fault.message

theorem exitCode_pos (f : Failure) : 0 < f.exitCode := by
  unfold exitCode
  split <;> decide

end Failure

end NotebookCheck.CommandLine
