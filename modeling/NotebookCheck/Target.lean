import NotebookCheck.Trace

/-!
Targets: something with containers in which commands can be run.  A target is any behaviour at all:
each of its answers may depend on when it is asked and on everything asked of it before, may take
any time, and may never come.
-/

namespace NotebookCheck

inductive Reply (α : Type) where
  | after (delay : Nat) (result : Except Fault α)
  | never

structure Target where
  name : String
  onSnapshot : Moment → Reply (Option Snapshot)
  onExecute : Moment → String → List String → Reply String
  onLog : Moment → String → Nat → Reply String

namespace Target

variable {α : Type}

def await (request : Request) (reply : Moment → Reply α) : Attempt α :=
  Attempt.ofWork fun m =>
    let entries := [.call ⟨m.now, request⟩]
    match reply m with
    | .after delay result => ⟨some result, delay, entries⟩
    | .never => ⟨none, 0, entries⟩

/-- Makes a request and waits for its reply no longer than the limit; a reply that comes exactly
then still counts.  There is no value if the limit passed first. -/
def awaitWithin (limit : Nat) (request : Request) (reply : Moment → Reply α) :
    Work (Option (Except Fault α)) := fun m =>
  let entries := [.call ⟨m.now, request⟩]
  match reply m with
  | .after delay result =>
      if delay ≤ limit then ⟨some (some result), delay, entries⟩
      else ⟨some none, limit, entries⟩
  | .never => ⟨some none, limit, entries⟩

def snapshot (t : Target) : Attempt (Option Snapshot) :=
  await .snapshot t.onSnapshot

def execute (t : Target) (container : String) (argv : List String) : Attempt String :=
  await (.execute container argv) fun m => t.onExecute m container argv

def executeWithin (t : Target) (limit : Nat) (container : String) (argv : List String) :
    Work (Option (Except Fault String)) :=
  awaitWithin limit (.execute container argv) fun m => t.onExecute m container argv

def log (t : Target) (container : String) (lines : Nat) : Attempt String :=
  await (.log container lines) fun m => t.onLog m container lines

def existsNow (t : Target) : Attempt Bool := do
  return (← t.snapshot).isSome

def presentSnapshot (t : Target) : Attempt Snapshot := do
  match ← t.snapshot with
  | some s => return s
  | none => Attempt.fail (.precondition (.targetMissing t.name))

def phase (t : Target) : Attempt Phase := do
  return (← t.presentSnapshot).phase

def containerNames (t : Target) : Attempt (List String) := do
  return (← t.presentSnapshot).containerNames

end Target

end NotebookCheck
