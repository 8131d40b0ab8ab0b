import NotebookCheck.Trace

/-!
Polling within bounds.  A probe is made again and again, an interval after the end of the one
before, until it is satisfied, fails for good, or the next one would start past the timeout.  The
first probe is always made, and a probe may start exactly at the timeout.
-/

namespace NotebookCheck

inductive Tick (α : Type) where
  | pending
  | satisfied (a : α)
deriving Repr, DecidableEq, Inhabited

def Tick.ofOption {α : Type} : Option α → Tick α
  | none => .pending
  | some a => .satisfied a

def Tick.ofBool (isDone : Bool) : Tick Unit :=
  if isDone then .satisfied () else .pending

def maxAttempts : Nat := UInt32.size - 1

/-- The bounds of a poll, in milliseconds, and the kinds of faults after which it goes on. -/
structure Poller where
  operation : String
  interval : Nat
  timeout : Nat
  ignorable : List FaultKind := []
  interval_pos : 0 < interval
  timeout_pos : 0 < timeout

namespace Poller

variable {α : Type}

def ofBounds (operation : String) (interval timeout : Nat) : Except Fault Poller :=
  if hi : interval = 0 then
    .error (.validation (operation ++ ": poll interval must be positive"))
  else if ht : timeout = 0 then
    .error (.validation (operation ++ ": timeout must be positive"))
  else
    .ok {
      operation, interval, timeout
      interval_pos := Nat.pos_of_ne_zero hi
      timeout_pos := Nat.pos_of_ne_zero ht }

def ignoring (p : Poller) (kind : FaultKind) : Poller :=
  if kind ∈ p.ignorable then p else { p with ignorable := p.ignorable ++ [kind] }

/-- What becomes of a poll after a probe: it ends, or it goes on, perhaps past a fault. -/
inductive Verdict (α : Type) where
  | satisfied (a : α)
  | fatal (f : Fault)
  | goOn (ignored : Option Fault)

def verdict (p : Poller) : Except Fault (Tick α) → Verdict α
  | .ok (.satisfied a) => .satisfied a
  | .ok .pending => .goOn none
  | .error f => if f.kind ∈ p.ignorable then .goOn (some f) else .fatal f

def satisfiedEvent (p : Poller) (attempts elapsed : Nat) : Event where
  level := .debug
  message := "poll satisfied"
  fields := [("operation", .text p.operation), ("attempts", .count attempts),
    ("elapsed_ms", .count elapsed)]

def ignoredEvent (p : Poller) (attempt : Nat) (f : Fault) : Event where
  level := .debug
  message := "ignorable probe error, retrying"
  fields := [("operation", .text p.operation), ("attempt", .count attempt),
    ("error", .text f.message)]

def timeoutEvent (p : Poller) (attempts : Nat) : Event where
  level := .warn
  message := "poll timed out"
  fields := [("operation", .text p.operation), ("attempts", .count attempts),
    ("timeout_secs", .count (p.timeout / 1000))]

/-- The poll from its probe with the given number on, counted from zero, which starts the given
time after the first one. -/
def runFrom (p : Poller) (probe : Nat → Attempt (Tick α)) (number elapsed : Nat) (m : Moment) :
    Trace (Except Fault α) :=
  let counted := Entry.count (.pollAttempts p.operation)
  let t := (probe number).run m
  let attempts := min (number + 1) maxAttempts
  let ended := elapsed + t.elapsed
  match t.value with
  | none => ⟨none, t.elapsed, counted :: t.entries⟩
  | some result =>
      match p.verdict result with
      | .satisfied a =>
          ⟨some (.ok a), t.elapsed,
            counted :: t.entries ++ [.event (p.satisfiedEvent attempts ended)]⟩
      | .fatal f => ⟨some (.error f), t.elapsed, counted :: t.entries⟩
      | .goOn ignored =>
          let noted := counted :: t.entries ++
            (ignored.map fun f => Entry.event (p.ignoredEvent attempts f)).toList
          if _h : ended + p.interval ≤ p.timeout then
            let next : Moment := { m.after t with now := m.now + t.elapsed + p.interval }
            let u := runFrom p probe (number + 1) (ended + p.interval) next
            ⟨u.value, t.elapsed + p.interval + u.elapsed, noted ++ u.entries⟩
          else
            ⟨some (.error (.timeout p.operation ended p.timeout attempts)), t.elapsed,
              noted ++ [.count (.pollTimeouts p.operation), .event (p.timeoutEvent attempts)]⟩
termination_by p.timeout - elapsed
decreasing_by
  have := p.interval_pos
  omega

def runEach (p : Poller) (probe : Nat → Attempt (Tick α)) : Attempt α :=
  Attempt.ofWork (p.runFrom probe 0 0)

def run (p : Poller) (probe : Attempt (Tick α)) : Attempt α :=
  p.runEach fun _ => probe

end Poller

end NotebookCheck
