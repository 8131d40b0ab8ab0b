/-!
Output streams of a daemon.  A message begins with a byte that says its channel, three bytes without
meaning and the number of bytes that follow.  Where a message should begin and no channel has the
number that stands there, plain text from a console follows instead.
-/

namespace NotebookCheck.Docker

inductive Message where
  | stdin (bytes : List UInt8)
  | stdout (bytes : List UInt8)
  | stderr (bytes : List UInt8)
  | console (bytes : List UInt8)
deriving Repr, DecidableEq, Inhabited

namespace Message

def sizeOf (a b c d : UInt8) : Nat :=
  ((a.toNat * 256 + b.toNat) * 256 + c.toNat) * 256 + d.toNat

def ofChannel (channel : UInt8) (bytes : List UInt8) : Message :=
  if channel = 0 then stdin bytes else if channel = 1 then stdout bytes else stderr bytes

/-- How many bytes of a console's text make one message, if it is known where it ends. -/
abbrev Cut : Type := List UInt8 → Option Nat

def lineCut : Cut := fun bytes =>
  let line := bytes.takeWhile (· ≠ 10)
  if line.length < bytes.length then some (line.length + 1) else none

def wholeCut : Cut := fun bytes => some bytes.length

def first? (cut : Cut) (bytes : List UInt8) : Option (Message × Nat) :=
  match bytes with
  | [] => none
  | channel :: rest =>
      if 2 < channel then (cut bytes).map fun n => (console (bytes.take n), n)
      else
        match rest with
        | _ :: _ :: _ :: a :: b :: c :: d :: content =>
            let n := sizeOf a b c d
            if content.length < n then none
            else some (ofChannel channel (content.take n), n + 8)
        | _ => none

def take (cut : Cut) : Nat → List UInt8 → List Message × List UInt8
  | 0, bytes => ([], bytes)
  | fuel + 1, bytes =>
      match first? cut bytes with
      | none => ([], bytes)
      | some (message, n) =>
          let (messages, left) := take cut fuel (bytes.drop n)
          (message :: messages, left)

def takeAll (cut : Cut) (bytes : List UInt8) : List Message × List UInt8 :=
  take cut (bytes.length + 1) bytes

def ofLog? (arrivals : List (List UInt8)) : Option (List Message) :=
  let (messages, left) := takeAll lineCut arrivals.flatten
  if left.isEmpty then some messages else none

/-- The messages of a command, after bytes that have not been enough for a message.  What arrives
at a time is taken apart before the next arrives. -/
def ofExecAfter? (left : List UInt8) : List (List UInt8) → Option (List Message)
  | [] => if left.isEmpty then some [] else none
  | arrival :: arrivals => do
      let (messages, left) := takeAll wholeCut (left ++ arrival)
      return messages ++ (← ofExecAfter? left arrivals)

def ofExec? (arrivals : List (List UInt8)) : Option (List Message) := ofExecAfter? [] arrivals

end Message

end NotebookCheck.Docker
