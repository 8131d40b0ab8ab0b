import NotebookCheck.Json.Cursor
import NotebookCheck.Number.Decimal

/-!
Numbers in JSON.  A number without point and exponent that fits 64 bits is whole, minus zero
excepted.  Every other number is made of its first digits, as many as fit 64 bits, and a power of
ten: each of the two is rounded, and so is their product or quotient.
-/

namespace NotebookCheck.Json

open Number

def maxDigits : Nat := UInt64.size - 1

def maxExponentDigits : Nat := Nat.pow 2 31 - 1

def maxPower : Nat := 308

def digits : Nat → Reading (List Nat)
  | 0 => pure []
  | fuel + 1 => do
      let c ← get
      match c.rest with
      | [] => return []
      | b :: _ =>
          if c.nextIsDigit then do
            Reading.step
            return (b.toNat - '0'.toNat) :: (← digits fuel)
          else return []

def allDigits : Reading (List Nat) := do digits (← get).rest.length

/-- The number that digits make after a number, and how many of them are left over once no more
fit. -/
def gather (n : Nat) : List Nat → Nat × Nat
  | [] => (n, 0)
  | d :: ds => if maxDigits < n * 10 + d then (n, ds.length + 1) else gather (n * 10 + d) ds

/-- `x * 10 ^ exponent`, step by step; nothing if it is out of range.  The first argument bounds the
number of steps, of which four make any number zero. -/
def scaled : Nat → Binary64 → Int → Option Binary64
  | 0, x, _ => some x
  | fuel + 1, x, exponent =>
      let power (k : Nat) : Binary64 := Binary64.ofNat (Nat.pow 10 k)
      if exponent.natAbs ≤ maxPower then
        if 0 ≤ exponent then x.times? (power exponent.natAbs) else x.over? (power exponent.natAbs)
      else if x.mantissa = 0 then some x
      else if 0 ≤ exponent then none
      else do scaled fuel (← x.over? (power maxPower)) (exponent + maxPower)

def ofParts (negative : Bool) (n : Nat) (exponent : Int) : Reading Json := do
  match scaled 6 (Binary64.ofNat n) exponent with
  | some x => return .real { x with negative }
  | none => Reading.fail .numberOutOfRange

/-- The exponent that digits make after a number, nothing once it is greater than any that is read
to its end; the first argument bounds the number of digits. -/
def exponentDigits : Nat → Nat → Reading (Option Nat)
  | 0, n => return some n
  | fuel + 1, n => do
      let c ← get
      match c.rest with
      | [] => return some n
      | b :: _ =>
          if c.nextIsDigit then do
            Reading.step
            let n := n * 10 + (b.toNat - '0'.toNat)
            if maxExponentDigits < n then return none else exponentDigits fuel n
          else return some n

def exponentSign : Reading Bool := do
  match ← Reading.peek with
  | some '+' => do
      Reading.step
      return false
  | some '-' => do
      Reading.step
      return true
  | _ => return false

def withExponent (negative : Bool) (n : Nat) (exponent : Int) : Reading Json := do
  Reading.step
  let below ← exponentSign
  match ← Reading.next with
  | none => Reading.fail .endInValue
  | some c =>
      if !c.isDigit then Reading.fail .badNumber
      else
        match ← exponentDigits (← get).rest.length (c.toNat - '0'.toNat) with
        | some power => ofParts negative n (if below then exponent - power else exponent + power)
        | none =>
            if n ≠ 0 && !below then Reading.fail .numberOutOfRange
            else do
              let _ ← allDigits
              return .real { Binary64.zero with negative }

def isExponentMark : Option Char → Bool
  | some 'e' | some 'E' => true
  | _ => false

def withFraction (negative : Bool) (n : Nat) (exponent : Int) : Reading Json := do
  Reading.step
  let ds ← allDigits
  if ds.isEmpty then
    match ← Reading.peek with
    | none => Reading.failNext .endInValue
    | some _ => Reading.failNext .badNumber
  else
    let (n, left) := gather n ds
    let exponent := exponent - ((ds.length - left : Nat) : Int)
    if isExponentMark (← Reading.peek) then withExponent negative n exponent
    else ofParts negative n exponent

def afterDigits (negative : Bool) (n left : Nat) : Reading Json := do
  match ← Reading.peek with
  | some '.' => withFraction negative n left
  | c =>
      if isExponentMark c then withExponent negative n left
      else if left ≠ 0 then ofParts negative n left
      else if !negative then return .int n
      else if n = 0 || Nat.pow 2 63 < n then return .real { Binary64.ofNat n with negative := true }
      else return .int (-(n : Int))

def unsigned (negative : Bool) : Reading Json := do
  match ← Reading.peek with
  | none => Reading.fail .endInValue
  | some '0' => do
      Reading.step
      if (← get).nextIsDigit then Reading.failNext .badNumber else afterDigits negative 0 0
  | some c =>
      if c.isDigit then do
        let (n, left) := gather 0 (← allDigits)
        afterDigits negative n left
      else do
        Reading.step
        Reading.fail .badNumber

def numeral : Reading Json := do
  if (← Reading.peek) = some '-' then do
    Reading.step
    unsigned true
  else unsigned false

def skipExponent : Reading Unit := do
  Reading.step
  let _ ← exponentSign
  if (← get).nextIsDigit then
    let _ ← allDigits
  else do
    Reading.step
    Reading.fail .badNumber

def skipFraction : Reading Unit := do
  Reading.step
  let ds ← allDigits
  if ds.isEmpty then Reading.failNext .badNumber
  else if isExponentMark (← Reading.peek) then skipExponent
  else pure ()

def skipNumeral : Reading Unit := do
  if (← Reading.peek) = some '-' then Reading.step
  match ← Reading.next with
  | some '0' => if (← get).nextIsDigit then Reading.failNext .badNumber
  | some c =>
      if c.isDigit then
        let _ ← allDigits
      else Reading.fail .badNumber
  | none => Reading.fail .badNumber
  match ← Reading.peek with
  | some '.' => skipFraction
  | c => if isExponentMark c then skipExponent

end NotebookCheck.Json
