import NotebookCheck.Text.Pem

namespace NotebookCheck.Cluster.Certificate

open Text

def sequenceTag : UInt8 := 0x30

def integerTag : UInt8 := 0x02

def bitsTag : UInt8 := 0x03

def versionTag : UInt8 := 0xA0

def numberOf (bytes : List UInt8) : Nat := bytes.foldl (fun n b => 256 * n + b.toNat) 0

/-- The length at the front of bytes, which is written as short as it can be. -/
def length? : List UInt8 → Option (Nat × List UInt8)
  | [] => none
  | b :: rest =>
      if b < 0x80 then some (b.toNat, rest)
      else
        let size := b.toNat - 0x80
        let n := numberOf (rest.take size)
        if size = 0 || 4 < size || rest.length < size then none
        else if n < 0x80 || (1 < size && n < Nat.pow 256 (size - 1)) then none
        else some (n, rest.drop size)

def element? : List UInt8 → Option (UInt8 × List UInt8 × List UInt8)
  | [] => none
  | tag :: rest => do
      let (n, rest) ← length? rest
      if rest.length < n then none else some (tag, rest.take n, rest.drop n)

/-- The content of the first element, which has to have a tag, and what follows it. -/
def content? (tag : UInt8) (bytes : List UInt8) : Option (List UInt8 × List UInt8) := do
  let (found, content, rest) ← element? bytes
  if found = tag then some (content, rest) else none

def after? : List UInt8 → List UInt8 → Option (List UInt8)
  | [], bytes => some bytes
  | tag :: tags, bytes => do after? tags (← content? tag bytes).2

def isSequence (bytes : List UInt8) : Bool :=
  match content? sequenceTag bytes with
  | some (_, []) => true
  | _ => false

/-- What is signed: a number, how it is signed, who signs, how long it holds, for whom, and the
key. -/
def isSigned (bytes : List UInt8) : Bool :=
  let bytes := ((content? versionTag bytes).map (·.2)).getD bytes
  (after? ([integerTag] ++ List.replicate 5 sequenceTag) bytes).isSome

def isCertificate (bytes : List UInt8) : Bool :=
  match content? sequenceTag bytes with
  | some (content, []) =>
      match content? sequenceTag content with
      | some (signed, rest) => isSigned signed && after? [sequenceTag, bitsTag] rest = some []
      | none => false
  | _ => false

def label : String := "CERTIFICATE"

def keyLabels : List String := ["PRIVATE KEY", "RSA PRIVATE KEY", "EC PRIVATE KEY"]

inductive IdentityFlaw where
  | malformed (reason : String)
  | noKey
  | noCertificate
  | badKey
deriving Repr, DecidableEq, Inhabited

def IdentityFlaw.text : IdentityFlaw → String
  | malformed reason => "identity PEM is invalid: " ++ reason
  | noKey => "identity PEM is missing a private key: the key must be PKCS8 or RSA/PKCS1"
  | noCertificate => "identity PEM is missing certificate"
  | badKey =>
      "invalid private key: unexpected error: failed to parse private key as RSA, ECDSA, or EdDSA"

def checkIdentity (bytes : List UInt8) : Except IdentityFlaw Unit := do
  let sections ← (Pem.read bytes).mapError fun fault => .malformed fault.message
  match sections.filter fun s => keyLabels.contains s.label with
  | [] => throw .noKey
  | key :: _ =>
      if !(sections.any fun s => s.label = label) then throw .noCertificate
      else if isSequence key.content then return ()
      else throw .badKey

end NotebookCheck.Cluster.Certificate
