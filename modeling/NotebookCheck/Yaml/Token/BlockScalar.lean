import NotebookCheck.Yaml.Cursor

/-!
Block scalars: indented lines.  A literal scalar keeps its line ends, in a folded one the end of
a line between two lines that do not begin with a blank becomes a blank.  What becomes of the line
ends after the last line is said in the first one.
-/

namespace NotebookCheck.Yaml.BlockScalar

inductive Chomping where
  | strip
  | clip
  | keep
deriving Repr, DecidableEq, Inhabited

structure Header where
  chomping : Chomping := .clip
  indentation : Nat := 0
deriving Repr, DecidableEq, Inhabited

def readChomping (c : Cursor) : Option Chomping × Cursor :=
  if c.nextIs '+' then (some .keep, c.advance 1)
  else if c.nextIs '-' then (some .strip, c.advance 1)
  else (none, c)

def readIndentation (start : Mark) (c : Cursor) : Except Flaw (Nat × Cursor) :=
  match c.peek with
  | some ch =>
      if ch = '0' then c.flaw .zeroIndentation .blockScalar start
      else if ch.isDigit then .ok (ch.toNat - '0'.toNat, c.advance 1)
      else .ok (0, c)
  | none => .ok (0, c)

def readHeader (start : Mark) (c : Cursor) : Except Flaw (Header × Cursor) := do
  let (before, c) := readChomping c
  let (indentation, c) ← readIndentation start c
  let (behind, c) :=
    if before.isNone && indentation ≠ 0 then readChomping c else (none, c)
  let c := (c.skip isBlank).skipComment
  if c.atLineEnd then
    return ({ chomping := (before <|> behind).getD .clip, indentation }, c.skipBreak)
  else c.flaw .noLineEnd .blockScalar start

/-- Reads empty lines and the blanks before the next line that is not empty.  Lines are indented as
far as it is given, or as they may be where it is not known yet. -/
def readBreaks (indent : Nat) (start : Mark) : Nat → String → Nat → Cursor →
    Except Flaw (String × Nat × Cursor)
  | 0, breaks, widest, c => .ok (breaks, widest, c)
  | fuel + 1, breaks, widest, c =>
      let spaces := (c.span (· = ' ')).1.length
      let c := c.advance (if indent = 0 then spaces else min spaces (indent - c.mark.column))
      let widest := max widest c.mark.column
      if (indent = 0 || c.mark.column < indent) && c.nextIs '\t' then
        c.flaw .tabForIndentation .blockScalar start
      else if c.atBreak then
        let (lineEnd, c) := c.readBreak
        readBreaks indent start fuel (breaks ++ lineEnd) widest c
      else .ok (breaks, widest, c)

/-- A scalar as it is being read: its text, the end of its last line, the empty lines after that,
whether the last line begins with a blank, and where all that ends. -/
structure Draft where
  text : String := ""
  lineEnd : String := ""
  breaks : String := ""
  blank : Bool := false
  cursor : Cursor
deriving Repr, DecidableEq, Inhabited

namespace Draft

def joined (d : Draft) (literal blank : Bool) : String :=
  if !literal && d.lineEnd.startsWith "\n" && !d.blank && !blank then
    d.text ++ (if d.breaks.isEmpty then " " else d.breaks)
  else d.text ++ d.lineEnd ++ d.breaks

def readLines (literal : Bool) (indent : Nat) (start : Mark) :
    Nat → Draft → Except Flaw Draft
  | 0, d => .ok d
  | fuel + 1, d =>
      if d.cursor.mark.column ≠ indent || d.cursor.atEnd then .ok d
      else do
        let blank := d.cursor.atBlank
        let (line, c) := d.cursor.span fun _ => true
        let (lineEnd, c) := c.readBreak
        let (breaks, _, c) ← readBreaks indent start (c.rest.length + 1) "" 0 c
        readLines literal indent start fuel {
          text := d.joined literal blank ++ String.ofList line
          lineEnd, breaks, blank, cursor := c }

def chomped (d : Draft) : Chomping → String
  | .strip => d.text
  | .clip => d.text ++ d.lineEnd
  | .keep => d.text ++ d.lineEnd ++ d.breaks

end Draft

/-- Reads a scalar at its mark, inside something that is indented so far, which is minus one for
nothing. -/
def read (literal : Bool) (outer : Int) (c : Cursor) : Except Flaw (String × Cursor) := do
  let start := c.mark
  let (header, c) ← readHeader start (c.advance 1)
  let known := if header.indentation = 0 then 0 else outer.toNat + header.indentation
  let (breaks, widest, c) ← readBreaks known start (c.rest.length + 1) "" 0 c
  let indent := if known = 0 then max widest (max (outer + 1).toNat 1) else known
  let d ← Draft.readLines literal indent start (c.rest.length + 1) { breaks, cursor := c }
  return (d.chomped header.chomping, d.cursor)

end NotebookCheck.Yaml.BlockScalar
