import NotebookCheck.Fault
import NotebookCheck.Metrics

/-!
Work that takes time.  A piece of work starts at a moment, which is the time on a millisecond clock
and the calls already made, and leaves a trace: its value, how long it took, and everything that it
put on record in order.  Work that never ends has no value.
-/

namespace NotebookCheck

open Number

inductive Request where
  | snapshot
  | execute (container : String) (argv : List String)
  | log (container : String) (lines : Nat)
deriving Repr, DecidableEq, Inhabited

structure Call where
  time : Nat
  request : Request
deriving Repr, DecidableEq, Inhabited

inductive Level where
  | debug
  | info
  | warn
deriving Repr, DecidableEq, Inhabited

inductive FieldValue where
  | text (s : String)
  | count (n : Nat)
  | flag (b : Bool)
  | seconds (x : Binary64)
deriving Repr, DecidableEq, Inhabited

structure Event where
  level : Level
  message : String
  fields : List (String × FieldValue) := []
deriving Repr, DecidableEq, Inhabited

inductive Backend where
  | container (name : String)
  | pod (namespaceName : String) (context : Option String) (name : String)
deriving Repr, DecidableEq, Inhabited

inductive Entry where
  | call (c : Call)
  | count (c : Counter)
  | sample (h : Histogram) (x : Binary64)
  | event (e : Event)
  | connect (b : Backend)
  | print (text : String)
deriving Repr, DecidableEq, Inhabited

def Entry.call? : Entry → Option Call
  | call c => some c
  | _ => none

/-- The time on the clock, and the calls made so far, the latest first. -/
structure Moment where
  now : Nat
  past : List Call
deriving Repr, DecidableEq, Inhabited

structure Trace (α : Type) where
  value : Option α
  elapsed : Nat
  entries : List Entry
deriving Inhabited

namespace Trace

variable {α : Type}

def calls (t : Trace α) : List Call := t.entries.filterMap Entry.call?

def counted (t : Trace α) (c : Counter) : Nat := t.entries.count (.count c)

end Trace

def Moment.after {α : Type} (m : Moment) (t : Trace α) : Moment :=
  ⟨m.now + t.elapsed, t.calls.reverse ++ m.past⟩

def Work (α : Type) : Type := Moment → Trace α

namespace Work

variable {α β : Type}

def done (a : α) : Work α := fun _ => ⟨some a, 0, []⟩

def thenDo (w : Work α) (f : α → Work β) : Work β := fun m =>
  let t := w m
  match t.value with
  | none => ⟨none, t.elapsed, t.entries⟩
  | some a =>
      let u := f a (m.after t)
      ⟨u.value, t.elapsed + u.elapsed, t.entries ++ u.entries⟩

instance : Monad Work where
  pure := done
  bind := thenDo

def record (e : Entry) : Work Unit := fun _ => ⟨some (), 0, [e]⟩

def note (level : Level) (message : String) (fields : List (String × FieldValue) := []) :
    Work Unit :=
  record (.event ⟨level, message, fields⟩)

def sleep (ms : Nat) : Work Unit := fun _ => ⟨some (), ms, []⟩

def clock : Work Nat := fun m => ⟨some m.now, 0, []⟩

def timed (w : Work α) : Work (α × Nat) := fun m =>
  let t := w m
  ⟨t.value.map fun a => (a, t.elapsed), t.elapsed, t.entries⟩

end Work

abbrev Attempt (α : Type) : Type := ExceptT Fault Work α

namespace Attempt

variable {α : Type}

def outcome (a : Attempt α) : Work (Except Fault α) := a.run

def ofExcept (r : Except Fault α) : Attempt α := ExceptT.mk (pure r)

def ofWork (w : Work (Except Fault α)) : Attempt α := ExceptT.mk w

def fail (f : Fault) : Attempt α := ofExcept (.error f)

end Attempt

end NotebookCheck
