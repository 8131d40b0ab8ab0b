import NotebookCheck.Json.Cursor
import NotebookCheck.Number.Decimal
import NotebookCheck.Text.Unicode

namespace NotebookCheck.Json

open Number Text

def unit : Reading Nat := do
  let c ← get
  match c.rest with
  | a :: b :: d :: e :: _ =>
      set (c.steps 4)
      match hexValue? (Char.ofNat a.toNat), hexValue? (Char.ofNat b.toNat),
          hexValue? (Char.ofNat d.toNat), hexValue? (Char.ofNat e.toNat) with
      | some a, some b, some d, some e => return ((a * 16 + b) * 16 + d) * 16 + e
      | _, _, _, _ => Reading.fail .badEscape
  | rest => do
      set (c.steps rest.length)
      Reading.fail .endInText

def isLeading (n : Nat) : Bool := 0xD800 ≤ n && n ≤ 0xDBFF

def isTrailing (n : Nat) : Bool := 0xDC00 ≤ n && n ≤ 0xDFFF

def joint (c : Char) : Reading Unit := do
  match ← Reading.peek with
  | none => Reading.fail .endInText
  | some found => do
      Reading.step
      if found = c then pure () else Reading.fail .escapeCutOff

/-- The character of a number, which may be the first of two halves that follow each other. -/
def codePoint : Reading Char := do
  let first ← unit
  if isTrailing first then Reading.fail .loneSurrogate
  else if isLeading first then do
    joint '\\'
    joint 'u'
    let second ← unit
    if isTrailing second then
      return Char.ofNat (0x10000 + (first - 0xD800) * 0x400 + (second - 0xDC00))
    else Reading.fail .loneSurrogate
  else return Char.ofNat first

def simpleEscapes : List (Char × Char) :=
  [('"', '"'), ('\\', '\\'), ('/', '/'), ('b', '\x08'), ('f', '\x0c'), ('n', '\n'), ('r', '\r'),
    ('t', '\t')]

def escape : Reading Char := do
  match ← Reading.next with
  | none => Reading.fail .endInText
  | some 'u' => codePoint
  | some c =>
      match simpleEscapes.lookup c with
      | some c => return c
      | none => Reading.fail .badEscape

/-- The bytes of a text up to its closing quote; the first argument bounds their number. -/
def textBytes : Nat → Reading (List UInt8)
  | 0 => Reading.fail .endInText
  | fuel + 1 => do
      let c ← get
      match c.rest with
      | [] => Reading.fail .endInText
      | b :: _ =>
          if b = Cursor.byte '"' then return []
          else if b = Cursor.byte '\\' then do
            Reading.step
            let ch ← escape
            return Utf8.encodeChar ch ++ (← textBytes fuel)
          else if b < 0x20 then do
            Reading.step
            Reading.fail .controlCharacter
          else do
            Reading.step
            return b :: (← textBytes fuel)

def quotedText : Reading String := do
  let bytes ← textBytes ((← get).rest.length + 1)
  match Utf8.decode bytes with
  | .ok text => do
      Reading.step
      return text
  | .error _ => Reading.fail .badCodePoint

def skipEscape : Reading Unit := do
  match ← Reading.next with
  | none => Reading.fail .endInText
  | some 'u' => do
      let _ ← unit
  | some c => if (simpleEscapes.lookup c).isSome then pure () else Reading.fail .badEscape

/-- Goes past a text that does not matter, after its opening quote; the argument bounds its
length. -/
def skipText : Nat → Reading Unit
  | 0 => Reading.fail .endInText
  | fuel + 1 => do
      let c ← get
      match c.rest with
      | [] => Reading.fail .endInText
      | b :: _ =>
          if b = Cursor.byte '"' then Reading.step
          else if b = Cursor.byte '\\' then do
            Reading.step
            skipEscape
            skipText fuel
          else if b < 0x20 then Reading.fail .controlCharacter
          else do
            Reading.step
            skipText fuel

end NotebookCheck.Json
