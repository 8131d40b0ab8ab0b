import NotebookCheck.Fault

namespace NotebookCheck

inductive ConfigProblem where
  | missing (path : String)
  | malformed (reason : String)
  | invalid (field reason : String)
deriving Repr, DecidableEq, Inhabited

def ConfigProblem.message : ConfigProblem → String
  | missing path => "config file not found: " ++ path
  | malformed reason => "failed to parse config: " ++ reason
  | invalid field reason => s!"invalid config value for '{field}': {reason}"

inductive TargetProblem where
  | validation (message : String)
  | precondition (message : String)
  | execution (container reason : String)
  | timeout (message : String)
  | api (message : String)
deriving Repr, DecidableEq, Inhabited

def TargetProblem.message : TargetProblem → String
  | validation message => "validation failed: " ++ message
  | precondition message => "precondition failed: " ++ message
  | execution container reason => s!"execution failed in container '{container}': {reason}"
  | timeout message => "timed out: " ++ message
  | api message => "api error: " ++ message

inductive Problem where
  | config (problem : ConfigProblem)
  | target (problem : TargetProblem)
  | io (reason : String)
deriving Repr, DecidableEq, Inhabited

namespace Problem

def message : Problem → String
  | config problem => "config error: " ++ problem.message
  | target problem => "target error: " ++ problem.message
  | io reason => "io error: " ++ reason

/-- A fault as a problem of the program.  The message of a fault is repeated inside the problem
unless the problem words it anew. -/
def ofFault (fault : Fault) : Problem :=
  match fault with
  | .validation message => target (.validation message)
  | .precondition failure => target (.precondition failure.message)
  | .execution container reason => target (.execution container reason)
  | .timeout _ _ _ _ | .notReady _ => target (.timeout fault.message)
  | .diagnosticCollection _ | .api _ | .connection _ => target (.api fault.message)
  | .config field reason => config (.invalid field reason)

end Problem

end NotebookCheck
