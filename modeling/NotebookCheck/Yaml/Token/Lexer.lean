import NotebookCheck.Yaml.Token.BlockScalar
import NotebookCheck.Yaml.Token.Name
import NotebookCheck.Yaml.Token.PlainScalar
import NotebookCheck.Yaml.Token.QuotedScalar

/-!
Taking a YAML text apart into words.  Some words are not written: the beginning of a block, its end,
and the mark of a key that is known as a key only by the colon after it.  So a word may have to wait
until it is clear that nothing comes before it.
-/

namespace NotebookCheck.Yaml

/-- What may turn out to be a key: whether it has to, the number of the word that it begins with,
and its place. -/
structure PossibleKey where
  required : Bool
  number : Nat
  mark : Mark
deriving Repr, DecidableEq, Inhabited

/-- How far a text is taken apart.  The indentation is that of the innermost block, minus one if
there is none; the possible keys are those of the brackets that are open, the innermost first, and
of the block around them. -/
structure Lexer where
  cursor : Cursor
  waiting : List Token := []
  taken : Nat := 0
  indent : Int := -1
  outerIndents : List Int := []
  keyAllowed : Bool := true
  keys : List (Option PossibleKey) := [none]
deriving Repr, DecidableEq, Inhabited

namespace Lexer

def maxKeyLength : Nat := 1024

def mark (lx : Lexer) : Mark := lx.cursor.mark

def column (lx : Lexer) : Int := lx.cursor.mark.column

def inFlow (lx : Lexer) : Bool := 1 < lx.keys.length

def refuse {α : Type} (lx : Lexer) (complaint : Complaint) : Except Flaw α :=
  .error { complaint, mark := lx.mark }

def push (lx : Lexer) (word : Word) (mark : Mark) : Lexer :=
  { lx with waiting := lx.waiting ++ [⟨word, mark⟩] }

def insert (lx : Lexer) (number : Nat) (word : Word) (mark : Mark) : Lexer :=
  let n := number - lx.taken
  { lx with waiting := lx.waiting.take n ++ ⟨word, mark⟩ :: lx.waiting.drop n }

def key? (lx : Lexer) : Option PossibleKey := lx.keys.head?.join

def withKey (lx : Lexer) (key : Option PossibleKey) : Lexer :=
  { lx with keys := key :: lx.keys.drop 1 }

def keyFlaw {α : Type} (lx : Lexer) (key : PossibleKey) : Except Flaw α :=
  lx.cursor.flaw .keyWithoutColon .simpleKey key.mark

def dropKey (lx : Lexer) : Except Flaw Lexer :=
  match lx.key? with
  | some key => if key.required then lx.keyFlaw key else .ok (lx.withKey none)
  | none => .ok lx

/-- The key can be none any more: it ends on its line, and is not too long. -/
def isStale (lx : Lexer) (key : PossibleKey) : Bool :=
  key.mark.line < lx.mark.line || key.mark.index + maxKeyLength < lx.mark.index

def dropStaleKeys (lx : Lexer) : Except Flaw Lexer :=
  match lx.keys.reverse.find? fun key => key.any fun k => k.required && lx.isStale k with
  | some (some key) => lx.keyFlaw key
  | _ => .ok { lx with keys := lx.keys.map fun key => key.filter fun k => !lx.isStale k }

def saveKey (lx : Lexer) : Except Flaw Lexer :=
  if !lx.keyAllowed then .ok lx
  else do
    let key : PossibleKey := {
      required := !lx.inFlow && lx.indent = lx.column
      number := lx.taken + lx.waiting.length
      mark := lx.mark }
    return (← lx.dropKey).withKey (some key)

/-- Opens a block at a column, unless it is open; its word comes before the one of a number. -/
def openBlock (lx : Lexer) (column : Int) (number : Option Nat) (word : Word) (mark : Mark) :
    Lexer :=
  if lx.inFlow || column ≤ lx.indent then lx
  else
    let opened := { lx with indent := column, outerIndents := lx.indent :: lx.outerIndents }
    match number with
    | some number => opened.insert number word mark
    | none => opened.push word mark

def closeUpTo (column : Int) : Nat → Lexer → Lexer
  | 0, lx => lx
  | n + 1, lx =>
      if column < lx.indent then
        closeUpTo column n ({ lx with
          indent := lx.outerIndents.headD (-1)
          outerIndents := lx.outerIndents.drop 1 }.push .blockEnd lx.mark)
      else lx

def closeBlocks (lx : Lexer) (column : Int) : Lexer :=
  if lx.inFlow then lx else lx.closeUpTo column (lx.outerIndents.length + 1)

/-- Goes to the next word, past blanks, comments and line ends; the first argument bounds the
number of lines. -/
def skipTo : Nat → Lexer → Lexer
  | 0, lx => lx
  | fuel + 1, lx =>
      let c := lx.cursor
      let c := if c.mark.index = 0 && c.nextIs '\uFEFF' then c.advance 1 else c
      let tabs := lx.inFlow || !lx.keyAllowed
      let c := (c.skip fun ch => ch = ' ' || (tabs && ch = '\t')).skipComment
      if c.atBreak then
        skipTo fuel { lx with
          cursor := c.skipBreak, keyAllowed := lx.keyAllowed || !lx.inFlow }
      else { lx with cursor := c }

def take (lx : Lexer) (n : Nat) (word : Word) : Lexer :=
  { lx with cursor := lx.cursor.advance n }.push word lx.mark

def readEnd (lx : Lexer) : Except Flaw Lexer := do
  let mark := lx.mark
  let mark := if mark.column = 0 then mark else { mark with column := 0, line := mark.line + 1 }
  let lx := { lx with cursor := { lx.cursor with mark } }.closeBlocks (-1)
  return { ← lx.dropKey with keyAllowed := false }.push .streamEnd mark

def readMark (lx : Lexer) (word : Word) : Except Flaw Lexer := do
  let lx ← (lx.closeBlocks (-1)).dropKey
  return { lx with keyAllowed := false }.take 3 word

def readDirectiveWord (lx : Lexer) : Except Flaw Lexer := do
  let lx ← (lx.closeBlocks (-1)).dropKey
  let (word, cursor) ← readDirective lx.cursor
  return { lx with cursor, keyAllowed := false }.push word lx.mark

def readOpening (lx : Lexer) (word : Word) : Except Flaw Lexer := do
  let lx ← lx.saveKey
  return { lx with keys := none :: lx.keys, keyAllowed := true }.take 1 word

def readClosing (lx : Lexer) (word : Word) : Except Flaw Lexer := do
  let lx ← lx.dropKey
  let keys := if lx.inFlow then lx.keys.drop 1 else lx.keys
  return { lx with keys, keyAllowed := false }.take 1 word

def readComma (lx : Lexer) : Except Flaw Lexer := do
  return { ← lx.dropKey with keyAllowed := true }.take 1 .comma

def readEntry (lx : Lexer) : Except Flaw Lexer :=
  if !lx.inFlow && !lx.keyAllowed then lx.refuse .entryNotAllowed
  else do
    let lx := lx.openBlock lx.column none .blockSequence lx.mark
    return { ← lx.dropKey with keyAllowed := true }.take 1 .entry

def readKey (lx : Lexer) : Except Flaw Lexer :=
  if !lx.inFlow && !lx.keyAllowed then lx.refuse .keyNotAllowed
  else do
    let lx := lx.openBlock lx.column none .blockMapping lx.mark
    return { ← lx.dropKey with keyAllowed := !lx.inFlow }.take 1 .key

def readValue (lx : Lexer) : Except Flaw Lexer :=
  match lx.key? with
  | some key =>
      let lx := lx.insert key.number .key key.mark
      let lx := lx.openBlock key.mark.column (some key.number) .blockMapping key.mark
      .ok ({ lx.withKey none with keyAllowed := false }.take 1 .value)
  | none =>
      if !lx.inFlow && !lx.keyAllowed then lx.refuse .valueNotAllowed
      else
        let lx := lx.openBlock lx.column none .blockMapping lx.mark
        .ok ({ lx with keyAllowed := !lx.inFlow }.take 1 .value)

def readKeyPart (lx : Lexer) (read : Cursor → Except Flaw (Word × Cursor)) :
    Except Flaw Lexer := do
  let lx ← lx.saveKey
  let (word, cursor) ← read lx.cursor
  return { lx with cursor, keyAllowed := false }.push word lx.mark

def readBlockScalar (lx : Lexer) (literal : Bool) : Except Flaw Lexer := do
  let lx ← lx.dropKey
  let (text, cursor) ← BlockScalar.read literal lx.indent lx.cursor
  return { lx with cursor, keyAllowed := true }.push (.scalar text false) lx.mark

def readQuotedScalar (lx : Lexer) (single : Bool) : Except Flaw Lexer :=
  lx.readKeyPart fun c => do
    let (text, c) ← QuotedScalar.read single c
    return (.scalar text false, c)

/-- A plain scalar; if it goes over a line end, a key may come after it. -/
def readPlainScalar (lx : Lexer) : Except Flaw Lexer := do
  let lx ← lx.saveKey
  let s ← PlainScalar.read lx.inFlow (lx.indent + 1).toNat lx.cursor
  return { lx with cursor := s.cursor, keyAllowed := s.gap.broken }.push (.scalar s.text true)
    lx.mark

def readName (lx : Lexer) (activity : Activity) (word : String → Word) : Except Flaw Lexer :=
  lx.readKeyPart fun c => do
    let (name, c) ← readAnchor activity c
    return (word name, c)

def marks : String := "-?:,[]\x7b\x7d#&*!|>'\"%@`"

def beginsPlain (lx : Lexer) : Bool :=
  let c := lx.cursor
  (c.nextHas isInk && !c.nextIn marks) ||
    (c.nextIs '-' && !((c.peekAt 1).any isBlank)) ||
    (!lx.inFlow && c.nextIn "?:" && !c.isGapAt 1)

def readWord (lx : Lexer) : Except Flaw Lexer :=
  let c := lx.cursor
  let first := c.mark.column = 0
  let gapOrFlow := lx.inFlow || c.isGapAt 1
  match c.peek with
  | none => lx.readEnd
  | some ch =>
      if first && ch = '%' then lx.readDirectiveWord
      else if first && c.atWord '-' then lx.readMark .documentStart
      else if first && c.atWord '.' then lx.readMark .documentEnd
      else if ch = '[' then lx.readOpening .flowSequence
      else if ch = '\x7b' then lx.readOpening .flowMapping
      else if ch = ']' then lx.readClosing .flowSequenceEnd
      else if ch = '\x7d' then lx.readClosing .flowMappingEnd
      else if ch = ',' then lx.readComma
      else if ch = '-' && c.isGapAt 1 then lx.readEntry
      else if ch = '?' && gapOrFlow then lx.readKey
      else if ch = ':' && gapOrFlow then lx.readValue
      else if ch = '*' then lx.readName .aliasName .aliasOf
      else if ch = '&' then lx.readName .anchor .anchor
      else if ch = '!' then lx.readKeyPart (readTag lx.inFlow)
      else if ch = '|' && !lx.inFlow then lx.readBlockScalar true
      else if ch = '>' && !lx.inFlow then lx.readBlockScalar false
      else if ch = '\'' then lx.readQuotedScalar true
      else if ch = '"' then lx.readQuotedScalar false
      else if lx.beginsPlain then lx.readPlainScalar
      else lx.cursor.flaw .noToken .nextToken lx.mark

def next (lx : Lexer) : Except Flaw Lexer := do
  let lx ← (lx.skipTo (lx.cursor.rest.length + 1)).dropStaleKeys
  (lx.closeBlocks lx.column).readWord

def isUnsettled (lx : Lexer) : Bool :=
  lx.waiting.isEmpty || lx.keys.any fun key => key.any fun k => k.number = lx.taken

/-- Goes on until the first word that waits is settled; the first argument bounds the number of
words. -/
def settleUpTo : Nat → Lexer → Except Flaw Lexer
  | 0, lx => .ok lx
  | fuel + 1, lx => do
      let lx ← if lx.waiting.isEmpty then pure lx else lx.dropStaleKeys
      if lx.isUnsettled then settleUpTo fuel (← lx.next) else return lx

def settle (lx : Lexer) : Except Flaw Lexer :=
  lx.settleUpTo (lx.cursor.rest.length + 2)

def peek (lx : Lexer) : Except Flaw (Token × Lexer) := do
  let lx ← lx.settle
  return (lx.waiting.headD ⟨.streamEnd, lx.mark⟩, lx)

def drop (lx : Lexer) : Lexer :=
  { lx with waiting := lx.waiting.drop 1, taken := lx.taken + 1 }

end Lexer

end NotebookCheck.Yaml
