import NotebookCheck.Number.Decimal
import NotebookCheck.Text.Blank
import NotebookCheck.Text.Unicode

namespace NotebookCheck.Text

def isPathByte (b : UInt8) : Bool :=
  0x21 ≤ b && b ≤ 0x7E &&
    !("\"<>`\x7b\x7d".toList.any fun c => c.toNat = b.toNat)

def upperHexDigit (n : Nat) : Char := ((Nat.toDigits 16 (n % 16)).headD '0').toUpper

def pathByte (b : UInt8) : List Char :=
  if isPathByte b then [Char.ofNat b.toNat]
  else ['%', upperHexDigit (b.toNat / 16), upperHexDigit b.toNat]

def percentEncoded (s : String) : String :=
  String.ofList ((Utf8.encode s).flatMap pathByte)

end NotebookCheck.Text

namespace NotebookCheck.Text.Form

def isPlainByte (b : UInt8) : Bool :=
  b < 0x80 &&
    let c := Char.ofNat b.toNat
    c.isAlphanum || "*-._".toList.contains c

def writtenByte (b : UInt8) : List Char :=
  if b = 0x20 then ['+']
  else if isPlainByte b then [Char.ofNat b.toNat]
  else ['%', upperHexDigit (b.toNat / 16), upperHexDigit b.toNat]

def encode (s : String) : String :=
  String.ofList ((Utf8.encode s).flatMap writtenByte)

def encodePair (p : String × String) : String := encode p.1 ++ "=" ++ encode p.2

def hexByte? (b : UInt8) : Option Nat := Number.hexValue? (Char.ofNat b.toNat)

def percentDecoded : List UInt8 → List UInt8
  | 0x25 :: high :: low :: rest =>
      match hexByte? high, hexByte? low with
      | some h, some l => (16 * h + l).toUInt8 :: percentDecoded rest
      | _, _ => 0x25 :: percentDecoded (high :: low :: rest)
  | b :: rest => b :: percentDecoded rest
  | [] => []

def decode (cs : List Char) : String :=
  let spaced := cs.map fun c => if c = '+' then ' ' else c
  Utf8.decodeLossy (percentDecoded (Utf8.encode (String.ofList spaced)))

def decodePair (cs : List Char) : String × String :=
  (decode (cs.takeWhile (· ≠ '=')), decode ((cs.dropWhile (· ≠ '=')).drop 1))

def decodePairs (s : String) : List (String × String) :=
  ((splitAtChar '&' s.toList).filter fun cs => !cs.isEmpty).map decodePair

end NotebookCheck.Text.Form
