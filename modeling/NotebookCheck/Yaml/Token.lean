import NotebookCheck.Yaml.Cursor

namespace NotebookCheck.Yaml

inductive Word where
  | streamEnd
  | version (major minor : Nat)
  | handle (name start : String)
  | documentStart
  | documentEnd
  | blockSequence
  | blockMapping
  | blockEnd
  | flowSequence
  | flowSequenceEnd
  | flowMapping
  | flowMappingEnd
  | entry
  | comma
  | key
  | value
  | aliasOf (name : String)
  | anchor (name : String)
  | tag (handle suffix : String)
  | scalar (text : String) (plain : Bool)
deriving Repr, DecidableEq, Inhabited

structure Token where
  word : Word
  mark : Mark
deriving Repr, DecidableEq, Inhabited

/-- A gap: its blanks, and if it is over the end of a line, the first line end and the further
ones. -/
structure Gap where
  blanks : String := ""
  broken : Bool := false
  first : String := ""
  more : String := ""
deriving Repr, DecidableEq, Inhabited

namespace Gap

def folded (first more : String) : String :=
  if first.startsWith "\n" then (if more.isEmpty then " " else more) else first ++ more

def text (g : Gap) : String := if g.broken then folded g.first g.more else g.blanks

def addBlank (g : Gap) (c : Char) : Gap :=
  if g.broken then g else { g with blanks := g.blanks.push c }

def addBreak (g : Gap) (lineEnd : String) : Gap :=
  if g.broken then { g with more := g.more ++ lineEnd }
  else { broken := true, first := lineEnd }

/-- Reads a gap up to the next character that is no part of it.  In a line after the first a tab
must not stand before the given column; the first argument bounds the length of the gap. -/
def read (tabsFrom : Nat) (start : Mark) : Nat → Gap → Cursor → Except Flaw (Gap × Cursor)
  | 0, g, c => .ok (g, c)
  | fuel + 1, g, c =>
      match c.peek with
      | some ch =>
          if isBlank ch then
            if g.broken && c.mark.column < tabsFrom && ch = '\t' then
              c.flaw .tabInPlain .plainScalar start
            else read tabsFrom start fuel (g.addBlank ch) (c.advance 1)
          else if isBreak ch then
            let (lineEnd, c) := c.readBreak
            read tabsFrom start fuel (g.addBreak lineEnd) c
          else .ok (g, c)
      | none => .ok (g, c)

end Gap

end NotebookCheck.Yaml
