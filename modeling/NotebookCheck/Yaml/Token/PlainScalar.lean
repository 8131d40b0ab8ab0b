import NotebookCheck.Yaml.Token

namespace NotebookCheck.Yaml

def isFlowMark (c : Char) : Bool := ",[]\x7b\x7d".toList.contains c

/-- A plain scalar as it is being read: its text, the gap after it, and where that ends. -/
structure PlainScalar where
  text : String := ""
  gap : Gap := {}
  cursor : Cursor
deriving Repr, DecidableEq, Inhabited

namespace PlainScalar

def readRun (inFlow : Bool) (start : Mark) : Nat → String → Cursor →
    Except Flaw (String × Cursor)
  | 0, text, c => .ok (text, c)
  | fuel + 1, text, c =>
      match c.peek with
      | none => .ok (text, c)
      | some ch =>
          if !isInk ch then .ok (text, c)
          else if inFlow && ch = ':' && (c.peekAt 1).any fun d => d = '?' || isFlowMark d then
            c.flaw .colonInFlow .plainScalar start
          else if (ch = ':' && c.isGapAt 1) || (inFlow && isFlowMark ch) then .ok (text, c)
          else readRun inFlow start fuel (text.push ch) (c.advance 1)

/-- Reads the rest of a plain scalar, whose further lines are indented at least so far. -/
def readFrom (inFlow : Bool) (indent : Nat) (start : Mark) :
    Nat → PlainScalar → Except Flaw PlainScalar
  | 0, s => .ok s
  | fuel + 1, s =>
      if s.cursor.atDocumentMark || s.cursor.nextIs '#' then .ok s
      else do
        let (run, c) ← readRun inFlow start (s.cursor.rest.length + 1) "" s.cursor
        let s : PlainScalar :=
          if run.isEmpty then { s with cursor := c }
          else { text := s.text ++ s.gap.text ++ run, cursor := c }
        if c.atEnd || !c.isGapAt 0 then return s
        else
          let (gap, c) ← Gap.read indent start (c.rest.length + 1) s.gap c
          let s := { s with gap, cursor := c }
          if !inFlow && c.mark.column < indent then return s
          else readFrom inFlow indent start fuel s

def read (inFlow : Bool) (indent : Nat) (c : Cursor) : Except Flaw PlainScalar :=
  readFrom inFlow indent c.mark (c.rest.length + 1) { cursor := c }

end PlainScalar

end NotebookCheck.Yaml
