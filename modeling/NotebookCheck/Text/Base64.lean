namespace NotebookCheck.Text.Base64

inductive Fault where
  | symbol (index : Nat) (byte : UInt8)
  | lastSymbol (index : Nat) (byte : UInt8)
  | length (n : Nat)
  | padding
deriving Repr, DecidableEq, Inhabited

def Fault.message : Fault → String
  | symbol index byte => s!"Invalid symbol {byte.toNat}, offset {index}."
  | lastSymbol index byte => s!"Invalid last symbol {byte.toNat}, offset {index}."
  | length n => s!"Invalid input length: {n}"
  | padding => "Invalid padding"

def filler : UInt8 := 0x3D

def value? (b : UInt8) : Option Nat :=
  let n := b.toNat
  if 0x41 ≤ n && n ≤ 0x5A then some (n - 0x41)
  else if 0x61 ≤ n && n ≤ 0x7A then some (n - 0x61 + 26)
  else if 0x30 ≤ n && n ≤ 0x39 then some (n - 0x30 + 52)
  else if n = 0x2B then some 62
  else if n = 0x2F then some 63
  else none

def values (index : Nat) : List UInt8 → Except Fault (List Nat)
  | [] => .ok []
  | b :: rest =>
      match value? b with
      | some v => (values (index + 1) rest).map (v :: ·)
      | none => .error (.symbol index b)

def bytesOf : List Nat → List UInt8
  | a :: b :: c :: d :: rest =>
      let n := ((a * 64 + b) * 64 + c) * 64 + d
      (n / 65536).toUInt8 :: (n / 256).toUInt8 :: n.toUInt8 :: bytesOf rest
  | [a, b, c] =>
      let n := (a * 64 + b) * 64 + c
      [(n / 1024).toUInt8, (n / 4).toUInt8]
  | [a, b] => [((a * 64 + b) / 16).toUInt8]
  | _ => []

def isExact (vs : List Nat) : Bool :=
  match vs with
  | [_, b] => b % 16 = 0
  | [_, _, c] => c % 4 = 0
  | _ => true

def fillerFault? (index : Nat) (group : List UInt8) : Option Fault :=
  let head := group.takeWhile (· ≠ filler)
  if head.length = group.length then none
  else if head.length < 2 || (group.drop head.length).any (· ≠ filler) then
    some (.symbol (index + head.length) filler)
  else none

def lastBytes (index : Nat) (group : List UInt8) : Except Fault (List UInt8) := do
  let head := group.takeWhile (· ≠ filler)
  let vs ← values index head
  match fillerFault? index group with
  | some fault => throw fault
  | none =>
      if group.isEmpty then return []
      else if vs.length < 2 then throw (.length (index + vs.length))
      else if group.length % 4 ≠ 0 then throw .padding
      else if !isExact vs then
        throw (.lastSymbol (index + vs.length - 1) (head.getLastD filler))
      else return bytesOf vs

def headLength (n : Nat) : Nat := if n % 4 = 0 then n - 4 else n - n % 4

def strayFault? (bytes : List UInt8) : Option Fault :=
  if bytes.length % 4 ≠ 1 then none
  else
    let last := bytes.getLastD filler
    if last ≠ filler && (value? last).isNone then some (.symbol (bytes.length - 1) last) else none

def decode (bytes : List UInt8) : Except Fault (List UInt8) :=
  match strayFault? bytes with
  | some fault => .error fault
  | none => do
      let n := headLength bytes.length
      let vs ← values 0 (bytes.take n)
      return bytesOf vs ++ (← lastBytes n (bytes.drop n))

end NotebookCheck.Text.Base64
