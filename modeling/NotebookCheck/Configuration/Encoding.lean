import NotebookCheck.Configuration
import NotebookCheck.Json
import NotebookCheck.Toml.Reader

namespace NotebookCheck.Configuration

open Toml

def Kind.ofNode? : Kind → Node → Option Value
  | text, .text s => some (.text s)
  | flag, .flag b => some (.flag b)
  | count bits, .whole n => if 0 ≤ n && n < Nat.pow 2 bits then some (.count n.toNat) else none
  | _, _ => none

def setNode? (f : Field) (node : Node) (c : Configuration) : Option Configuration :=
  (f.kind.ofNode? node).map (c.set f)

def setEntries? (entries : Entries) : List Field → Configuration → Option Configuration
  | [], c => some c
  | f :: fields, c =>
      match entries.lookup f.key with
      | none => setEntries? entries fields c
      | some node => do setEntries? entries fields (← setNode? f node c)

/-- The configuration with the fields that a list gives in their order; values past the last field
are passed over. -/
def setItems? : List Node → List Field → Configuration → Option Configuration
  | node :: items, f :: fields, c => do setItems? items fields (← setNode? f node c)
  | _, _, c => some c

/-- The configuration with a section out of a document, which is a table or a list; a time has none
of the fields. -/
def setSection? (entries : Entries) (s : Section) (c : Configuration) : Option Configuration :=
  match entries.lookup s.name with
  | none => some c
  | some (.table _ entries) => setEntries? entries s.fields c
  | some (.array items) => setItems? items s.fields c
  | some (.time _) => some c
  | some _ => none

def ofEntries? (entries : Entries) : Option Configuration :=
  Section.all.foldlM (fun c s => setSection? entries s c) {}

def parse (text : String) : Except ConfigProblem Configuration :=
  match (Toml.read? text).bind ofEntries? with
  | some c => .ok c
  | none => .error (.malformed "not a document with the fields of a configuration")

def Value.write : Value → List Char
  | text s => writeText s
  | flag b => (toString b).toList
  | count n => (toString n).toList

def Field.write (f : Field) (value : Value) : List Char :=
  f.key.toList ++ [' ', '=', ' '] ++ value.write ++ ['\n']

def sectionLines (c : Configuration) (pick : Field → Bool) (s : Section) : List Char :=
  (s.fields.filter pick).flatMap fun f => f.write (c.get f)

def writeSection (c : Configuration) (pick : Field → Bool) (s : Section) : List Char :=
  ['['] ++ s.name.toList ++ [']', '\n'] ++ c.sectionLines pick s

def write (c : Configuration) (pick : Field → Bool) : String :=
  String.ofList (['\n'].intercalate (Section.all.map (c.writeSection pick)))

def text (c : Configuration) : String := c.write fun _ => true

def sectionText (c : Configuration) (s : Section) : String :=
  String.ofList (c.sectionLines (fun _ => true) s)

/-- What a library can write: numbers up to the greatest one, by default whatever fits in 64 bits, as
the library in use writes and reads back any such number.  It refuses a larger number with a
reason. -/
structure Writer where
  greatest : Nat := UInt64.size - 1
  reason : String := "out-of-range value for `u64` type"

def Writer.check (w : Writer) : Value → Except String Unit
  | .count n => if n ≤ w.greatest then .ok () else .error w.reason
  | .text _ | .flag _ => .ok ()

def fieldsOf : Option Section → List Field
  | none => Field.all
  | some s => s.fields

def textOf (c : Configuration) : Option Section → String
  | none => c.text
  | some s => c.sectionText s

def document (w : Writer) (only : Option Section) (c : Configuration) : Except String String := do
  forM (fieldsOf only) fun f => w.check (c.get f)
  return c.textOf only

def Value.toJson : Value → Json
  | text s => .string s
  | flag b => .bool b
  | count n => .ofNat n

def toJson (c : Configuration) : Json :=
  .object (Section.all.map fun s =>
    (s.name, .object (s.fields.map fun f => (f.key, (c.get f).toJson))))

end NotebookCheck.Configuration
