import NotebookCheck.Trace

/-!
Advisory deadlines.  A budget is checked only between phases: it never cuts a phase short, and the
first check after it is spent fails.
-/

namespace NotebookCheck

open Number

/-- The start of a budget in milliseconds, and how many times it has been checked. -/
structure Deadline where
  started : Nat
  budget : Nat
  checkpoints : Nat := 0
deriving Repr, DecidableEq, Inhabited

namespace Deadline

def start (budget : Nat) : Work Deadline := do
  return { started := ← Work.clock, budget }

def elapsedAt (d : Deadline) (now : Nat) : Nat := now - d.started

def remainingAt (d : Deadline) (now : Nat) : Nat := d.budget - d.elapsedAt now

def exceededAt (d : Deadline) (now : Nat) : Bool := d.budget < d.elapsedAt now

def checked (d : Deadline) : Deadline :=
  { d with checkpoints := min (d.checkpoints + 1) (UInt32.size - 1) }

def fields (d : Deadline) (now : Nat) : List (String × FieldValue) :=
  [("elapsed_secs", .seconds (Binary64.ofMillis (d.elapsedAt now))),
    ("budget_secs", .count (d.budget / 1000))]

def checkpoint (d : Deadline) (phase : String) : Work (Except Fault Unit × Deadline) := do
  let now ← Work.clock
  if d.exceededAt now then
    Work.note .warn "overall timeout exceeded" (("phase", .text phase) :: d.fields now)
    let fault := .timeout s!"overall deadline at '{phase}'" (d.elapsedAt now) d.budget
      d.checked.checkpoints
    return (.error fault, d.checked)
  else return (.ok (), d.checked)

def finish (d : Deadline) : Work Nat := do
  let now ← Work.clock
  if d.exceededAt now then
    Work.note .warn "execution time exceeded overall timeout" (d.fields now)
  else Work.note .info "finished within overall timeout" (d.fields now)
  return d.elapsedAt now

end Deadline

end NotebookCheck
