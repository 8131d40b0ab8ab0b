import NotebookCheck.Yaml.Event

/-!
The documents of a YAML text.  An alias in a document refers to a node before it, by the number that
the node's anchor got.  Anchors are numbered by how many different names there are before them, so
that a name that is used again may take over the number of a later one.
-/

namespace NotebookCheck.Yaml

inductive Part where
  | void
  | aliasOf (number : Nat)
  | scalar (tag : Option String) (text : String) (plain : Bool)
  | sequenceStart (tag : Option String)
  | sequenceEnd
  | mappingStart (tag : Option String)
  | mappingEnd
deriving Repr, DecidableEq, Inhabited

/-- A document as far as it could be read: its parts with their places, where the nodes with
anchors are among them, and the flaw that comes after them, if there is one. -/
structure Document where
  parts : Array (Part × Mark) := #[]
  anchored : List (Nat × Nat) := []
  flaw : Option Flaw := none
deriving Repr, Inhabited

/-- A document as it is being read, with the numbers of the anchors. -/
structure Draft where
  document : Document := {}
  anchors : List (String × Nat) := []
deriving Repr, Inhabited

namespace Draft

def push (d : Draft) (part : Part) (mark : Mark) : Draft :=
  { d with document := { d.document with parts := d.document.parts.push (part, mark) } }

def anchorCount (d : Draft) : Nat := (d.anchors.map (·.1)).eraseDups.length

def anchor (d : Draft) (p : Properties) : Draft :=
  match p.anchor with
  | none => d
  | some name =>
      let number := d.anchorCount
      { document :=
          { d.document with
            anchored := (number, d.document.parts.size) :: d.document.anchored }
        anchors := (name, number) :: d.anchors }

def stop (d : Draft) (flaw : Flaw) : Document := { d.document with flaw := some flaw }

end Draft

/-- What became of a document: it is complete, it ends with a flaw, or there is none. -/
inductive Found where
  | whole (document : Document) (rest : Outline)
  | flawed (document : Document)
  | absent (mark : Mark)

/-- Reads the parts of a document up to its end; the first argument bounds their number. -/
def readDocument : Nat → Draft → Outline → Found
  | 0, d, o => .whole d.document o
  | fuel + 1, d, o =>
      match Step.next.run o with
      | .error flaw => .flawed (d.stop flaw)
      | .ok ((event, mark), o) =>
          match event with
          | .streamEnd => .absent mark
          | .documentStart => readDocument fuel d o
          | .documentEnd => .whole d.document o
          | .aliasOf name =>
              match d.anchors.lookup name with
              | some number => readDocument fuel (d.push (.aliasOf number) mark) o
              | none => .flawed (d.stop { complaint := .unknownAnchor, mark })
          | .scalar p text plain =>
              readDocument fuel ((d.anchor p).push (.scalar p.tag text plain) mark) o
          | .sequenceStart p =>
              readDocument fuel ((d.anchor p).push (.sequenceStart p.tag) mark) o
          | .sequenceEnd => readDocument fuel (d.push .sequenceEnd mark) o
          | .mappingStart p =>
              readDocument fuel ((d.anchor p).push (.mappingStart p.tag) mark) o
          | .mappingEnd => readDocument fuel (d.push .mappingEnd mark) o

/-- Reads the documents of a text, up to the first flaw; a text without one still has a first
document, which is void.  The first argument bounds their number. -/
def readDocuments : Nat → Bool → Outline → List Document
  | 0, _, _ => []
  | fuel + 1, first, o =>
      match readDocument (8 * o.lexer.cursor.rest.length + 32) {} o with
      | .whole document o => document :: readDocuments fuel false o
      | .flawed document => [document]
      | .absent mark => if first then [{ parts := #[(.void, mark)] }] else []

def isTextChar (c : Char) : Bool :=
  let n := c.toNat
  n = 0x09 || n = 0x0A || n = 0x0D || (0x20 ≤ n && n ≤ 0x7E) || n = 0x85 ||
    (0xA0 ≤ n && n ≤ 0xD7FF) || (0xE000 ≤ n && n ≤ 0xFFFD) || 0x10000 ≤ n

def controlFlaw? (cs : List Char) : Option Flaw :=
  let good := cs.takeWhile isTextChar
  if good.length < cs.length then
    some { complaint := .control, offset := (String.ofList good).utf8ByteSize }
  else none

def documents (text : String) : List Document :=
  let cs := text.toList
  match controlFlaw? cs with
  | some flaw => [{ flaw := some flaw }]
  | none => readDocuments (cs.length + 2) true { lexer := { cursor := { rest := cs } } }

end NotebookCheck.Yaml
