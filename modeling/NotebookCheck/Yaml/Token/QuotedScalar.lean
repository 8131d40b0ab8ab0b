import NotebookCheck.Number.Decimal
import NotebookCheck.Yaml.Token

namespace NotebookCheck.Yaml.QuotedScalar

open Number

def escapes : List (Char × Char) :=
  [('0', '\x00'), ('a', '\x07'), ('b', '\x08'), ('t', '\t'), ('\t', '\t'), ('n', '\n'),
    ('v', '\x0b'), ('f', '\x0c'), ('r', '\r'), ('e', '\x1b'), (' ', ' '), ('"', '"'), ('/', '/'),
    ('\\', '\\'), ('N', '\u0085'), ('_', '\u00a0'), ('L', '\u2028'), ('P', '\u2029')]

def codeLengths : List (Char × Nat) := [('x', 2), ('u', 4), ('U', 8)]

def isBadCode (n : Nat) : Bool := (0xD800 ≤ n && n ≤ 0xDFFF) || 0x10FFFF < n

def readCode (start : Mark) (n : Nat) (c : Cursor) : Except Flaw (Char × Cursor) :=
  let digits := c.rest.take n
  if digits.length < n || !digits.all (isDigitOf 16) then
    c.flaw .badEscapeDigits .quotedEscape start
  else
    let code := valueOf 16 digits
    if isBadCode code then c.flaw .badEscapeCode .quotedEscape start
    else .ok (Char.ofNat code, c.advance n)

def readEscape (start : Mark) (c : Cursor) : Except Flaw (Char × Cursor) :=
  match c.peekAt 1 with
  | none => c.flaw .unknownEscape .quotedEscape start
  | some ch =>
      match codeLengths.lookup ch with
      | some n => readCode start n (c.advance 2)
      | none =>
          match escapes.lookup ch with
          | some meant => .ok (meant, c.advance 2)
          | none => c.flaw .unknownEscape .quotedEscape start

/-- Reads the characters up to a gap or the closing quote, and whether an escaped line end was the
last of them. -/
def readRun (single : Bool) (start : Mark) : Nat → String → Cursor →
    Except Flaw (String × Bool × Cursor)
  | 0, text, c => .ok (text, false, c)
  | fuel + 1, text, c =>
      match c.peek with
      | none => .ok (text, false, c)
      | some ch =>
          if !isInk ch then .ok (text, false, c)
          else if single then
            if ch ≠ '\'' then readRun single start fuel (text.push ch) (c.advance 1)
            else if c.peekAt 1 = some '\'' then
              readRun single start fuel (text.push ch) (c.advance 2)
            else .ok (text, false, c)
          else if ch = '"' then .ok (text, false, c)
          else if ch = '\\' then
            if (c.peekAt 1).any isBreak then .ok (text, true, (c.advance 1).skipBreak)
            else do
              let (meant, c) ← readEscape start c
              readRun single start fuel (text.push meant) c
          else readRun single start fuel (text.push ch) (c.advance 1)

def readFrom (single : Bool) (start : Mark) : Nat → String → Cursor →
    Except Flaw (String × Cursor)
  | 0, text, c => .ok (text, c)
  | fuel + 1, text, c =>
      if c.atDocumentMark then c.flaw .documentMark .quotedScalar start
      else if c.atEnd then c.flaw .endOfStream .quotedScalar start
      else do
        let (text, broken, c) ← readRun single start (c.rest.length + 1) text c
        if c.nextIs (if single then '\'' else '"') then return (text, c.advance 1)
        else
          let (gap, c) ← Gap.read 0 start (c.rest.length + 1) { broken } c
          readFrom single start fuel (text ++ gap.text) c

def read (single : Bool) (c : Cursor) : Except Flaw (String × Cursor) :=
  readFrom single c.mark (c.rest.length + 1) "" (c.advance 1)

end NotebookCheck.Yaml.QuotedScalar
