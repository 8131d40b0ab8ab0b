import NotebookCheck.Configuration.Encoding
import NotebookCheck.Configuration.Environment
import NotebookCheck.File.Tree

/-!
Loading configurations.  A file is read and checked on its own, and only then does the environment
take effect, after which the configuration is checked again.
-/

namespace NotebookCheck.Configuration

def checked (c : Configuration) : Except Problem Configuration :=
  match c.check with
  | .ok () => .ok c
  | .error problem => .error (.config problem)

def fileProblem (path : String) : File.Fault → Problem
  | .missing => .config (.missing path)
  | .unreadable reason => .io reason

def ofFile (path : String) (file : File) : Except Problem Configuration :=
  match file.text with
  | .error fault => .error (fileProblem path fault)
  | .ok text =>
      match parse text with
      | .ok c => c.checked
      | .error problem => .error (.config problem)

def settle (env : Environment) (c : Configuration) : Work (Except Problem Configuration) := do
  let c ← c.override env
  return c.checked

def load (path : String) (file : File) (env : Environment) :
    Work (Except Problem Configuration) :=
  match ofFile path file with
  | .ok c => c.settle env
  | .error problem => pure (.error problem)

/-- The configuration that a file and the environment give, where a missing file stands for the
defaults. -/
def loadOrDefault (path : String) (file : File) (env : Environment) :
    Work (Except Problem Configuration) :=
  match file with
  | .missing => do
      Work.note .debug "config file not found, using defaults" [("path", .text path)]
      settle env {}
  | file => load path file env

end NotebookCheck.Configuration
