import NotebookCheck.Yaml.Flaw

namespace NotebookCheck.Yaml

def isBreak (c : Char) : Bool :=
  c = '\n' || c = '\r' || c = '\u0085' || c = '\u2028' || c = '\u2029'

def isBlank (c : Char) : Bool := c = ' ' || c = '\t'

def isInk (c : Char) : Bool := !isBlank c && !isBreak c

def isNameChar (c : Char) : Bool := c.isAlphanum || c = '_' || c = '-'

structure Cursor where
  rest : List Char
  mark : Mark := {}
deriving Repr, DecidableEq, Inhabited

namespace Cursor

def peek (c : Cursor) : Option Char := c.rest.head?

def peekAt (n : Nat) (c : Cursor) : Option Char := c.rest[n]?

def atEnd (c : Cursor) : Bool := c.rest.isEmpty

def nextIs (c : Cursor) (ch : Char) : Bool := c.peek = some ch

def nextIn (c : Cursor) (chars : String) : Bool :=
  match c.peek with
  | some ch => chars.toList.contains ch
  | none => false

def nextHas (c : Cursor) (p : Char → Bool) : Bool := c.peek.any p

def atBlank (c : Cursor) : Bool := c.nextHas isBlank

def atBreak (c : Cursor) : Bool := c.nextHas isBreak

def atLineEnd (c : Cursor) : Bool := c.atEnd || c.atBreak

/-- After so many characters there is a blank, or the end of a line or of the text. -/
def isGapAt (n : Nat) (c : Cursor) : Bool :=
  match c.peekAt n with
  | none => true
  | some ch => !isInk ch

def advance (n : Nat) (c : Cursor) : Cursor :=
  { rest := c.rest.drop n
    mark := { c.mark with index := c.mark.index + n, column := c.mark.column + n } }

def span (p : Char → Bool) (c : Cursor) : List Char × Cursor :=
  let text := c.rest.takeWhile fun ch => p ch && !isBreak ch
  (text, c.advance text.length)

def skip (p : Char → Bool) (c : Cursor) : Cursor := (c.span p).2

def skipLine (c : Cursor) : Cursor := c.skip fun _ => true

def skipComment (c : Cursor) : Cursor := if c.nextIs '#' then c.skipLine else c

def nextLine (n : Nat) (c : Cursor) : Cursor :=
  { rest := c.rest.drop n, mark := { index := c.mark.index + n, line := c.mark.line + 1 } }

/-- The end of a line as it counts in a text, and the cursor after it. -/
def readBreak (c : Cursor) : String × Cursor :=
  match c.rest with
  | '\r' :: '\n' :: _ => ("\n", c.nextLine 2)
  | ch :: _ =>
      if ch = '\u2028' || ch = '\u2029' then (ch.toString, c.nextLine 1)
      else if isBreak ch then ("\n", c.nextLine 1)
      else ("", c)
  | [] => ("", c)

def skipBreak (c : Cursor) : Cursor := c.readBreak.2

def atWord (ch : Char) (c : Cursor) : Bool :=
  c.rest.take 3 == [ch, ch, ch] && c.isGapAt 3

def atDocumentMark (c : Cursor) : Bool :=
  c.mark.column = 0 && (c.atWord '-' || c.atWord '.')

def flaw {α : Type} (c : Cursor) (complaint : Complaint) (activity : Activity) (start : Mark) :
    Except Flaw α :=
  .error { complaint, mark := c.mark, activity := some (activity, start) }

end Cursor

end NotebookCheck.Yaml
