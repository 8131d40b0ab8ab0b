import NotebookCheck.Json

namespace NotebookCheck.Json

inductive Complaint where
  | endInList
  | endInObject
  | endInText
  | endInValue
  | expectedColon
  | expectedItemEnd
  | expectedFieldEnd
  | expectedWord
  | expectedValue
  | badEscape
  | badNumber
  | numberOutOfRange
  | badCodePoint
  | controlCharacter
  | keyNotText
  | loneSurrogate
  | trailingComma
  | trailing
  | escapeCutOff
  | tooDeep
  | misfit (reason : String)
deriving Repr, DecidableEq, Inhabited

namespace Complaint

def message : Complaint → String
  | endInList => "EOF while parsing a list"
  | endInObject => "EOF while parsing an object"
  | endInText => "EOF while parsing a string"
  | endInValue => "EOF while parsing a value"
  | expectedColon => "expected `:`"
  | expectedItemEnd => "expected `,` or `]`"
  | expectedFieldEnd => "expected `,` or `\x7d`"
  | expectedWord => "expected ident"
  | expectedValue => "expected value"
  | badEscape => "invalid escape"
  | badNumber => "invalid number"
  | numberOutOfRange => "number out of range"
  | badCodePoint => "invalid unicode code point"
  | controlCharacter => "control character (\\u0000-\\u001F) found while parsing a string"
  | keyNotText => "key must be a string"
  | loneSurrogate => "lone leading surrogate in hex escape"
  | trailingComma => "trailing comma"
  | trailing => "trailing characters"
  | escapeCutOff => "unexpected end of hex escape"
  | tooDeep => "recursion limit exceeded"
  | misfit reason => reason

def isEnd : Complaint → Bool
  | endInList | endInObject | endInText | endInValue => true
  | _ => false

end Complaint

structure Flaw where
  complaint : Complaint
  line : Nat
  column : Nat
deriving Repr, DecidableEq, Inhabited

def Flaw.message (f : Flaw) : String :=
  s!"{f.complaint.message} at line {f.line} column {f.column}"

/-- A place in the bytes of a text: what follows, and how far it is from the beginning. -/
structure Cursor where
  rest : List UInt8
  line : Nat := 1
  column : Nat := 0
deriving Repr, DecidableEq, Inhabited

namespace Cursor

def byte (c : Char) : UInt8 := c.toNat.toUInt8

def step (c : Cursor) : Cursor :=
  match c.rest with
  | [] => c
  | b :: rest =>
      if b = byte '\n' then ⟨rest, c.line + 1, 0⟩ else ⟨rest, c.line, c.column + 1⟩

def steps : Nat → Cursor → Cursor
  | 0, c => c
  | n + 1, c => steps n c.step

def flaw (c : Cursor) (complaint : Complaint) : Flaw := ⟨complaint, c.line, c.column⟩

def flawNext (c : Cursor) (complaint : Complaint) : Flaw := c.step.flaw complaint

def isSpace (b : UInt8) : Bool :=
  b = byte ' ' || b = byte '\t' || b = byte '\n' || b = byte '\r'

def skipSpace (c : Cursor) : Cursor :=
  steps (c.rest.takeWhile isSpace).length c

def nextIs (c : Cursor) (ch : Char) : Bool := c.rest.head? = some (byte ch)

def nextIsDigit (c : Cursor) : Bool :=
  match c.rest with
  | b :: _ => byte '0' ≤ b && b ≤ byte '9'
  | [] => false

end Cursor

/-- A reader goes on from a place to a later one, or finds a flaw. -/
abbrev Reading (α : Type) : Type := StateT Cursor (Except Flaw) α

namespace Reading

variable {α : Type}

def fail (complaint : Complaint) : Reading α := fun c => .error (c.flaw complaint)

def failNext (complaint : Complaint) : Reading α := fun c => .error (c.flawNext complaint)

def step : Reading Unit := modify Cursor.step

def skipSpace : Reading Unit := modify Cursor.skipSpace

def peek : Reading (Option Char) := fun c =>
  .ok (c.rest.head?.map fun b => Char.ofNat b.toNat, c)

def peekPastSpace : Reading (Option Char) := do
  skipSpace
  peek

def next : Reading (Option Char) := do
  let c ← peek
  step
  return c

def word : List Char → Reading Unit
  | [] => pure ()
  | c :: rest => do
      match ← next with
      | none => fail .endInValue
      | some found => if found = c then word rest else fail .expectedWord

end Reading

end NotebookCheck.Json
