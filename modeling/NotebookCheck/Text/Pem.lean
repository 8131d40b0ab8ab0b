import NotebookCheck.Text.Base64
import NotebookCheck.Text.Blank
import NotebookCheck.Text.Unicode

namespace NotebookCheck.Text.Pem

structure Section where
  label : String
  content : List UInt8
deriving Repr, DecidableEq, Inhabited

inductive Fault where
  | encoding (fault : Utf8.Fault)
  | noBegin
  | noEnd
  | mismatch (first last : String)
  | data (fault : Base64.Fault)
  | header (line : String)
deriving Repr, DecidableEq, Inhabited

def Fault.message : Fault → String
  | encoding fault => "invalid utf-8 value: " ++ fault.message
  | noBegin => "missing BEGIN tag"
  | noEnd => "missing END tag"
  | mismatch first last => s!"mismatching BEGIN (\"{first}\") and END (\"{last}\") tags"
  | data fault => "invalid data: " ++ fault.message
  | header line => "invalid header: " ++ line

structure Draft where
  first : List UInt8
  headers : List UInt8
  data : List UInt8
  last : List UInt8

/-- What stands before and after the first occurrence of a mark.  Characters that began the mark in
vain are not looked at again. -/
def splitAtMark? (mark : List UInt8) (missing : List UInt8) :
    List UInt8 → List UInt8 → Option (List UInt8 × List UInt8)
  | _, [] => none
  | before, b :: rest =>
      match missing with
      | [] => none
      | m :: more =>
          if b = m then
            if more.isEmpty then some ((before.drop (mark.length - 1)).reverse, rest)
            else splitAtMark? mark more (b :: before) rest
          else splitAtMark? mark mark (b :: before) rest

def splitAt? (mark : String) (bytes : List UInt8) : Option (List UInt8 × List UInt8) :=
  let mark := Utf8.encode mark
  splitAtMark? mark mark [] bytes

def isSpace (b : UInt8) : Bool := b = 0x20 || b = 0x09 || b = 0x0A || b = 0x0D

def next? (bytes : List UInt8) : Option (Draft × List UInt8) := do
  let (_, rest) ← splitAt? "-----BEGIN " bytes
  let (first, rest) ← splitAt? "-----" rest
  let (payload, rest) ← splitAt? "-----END " (rest.dropWhile isSpace)
  let (headers, data) :=
    match splitAt? "\n\n" payload, splitAt? "\r\n\r\n" payload with
    | some parts, _ => parts
    | none, some parts => parts
    | none, none => ([], payload)
  let (last, rest) ← splitAt? "-----" rest
  return ({ first, headers, data, last }, rest.dropWhile isSpace)

def textOf (bytes : List UInt8) : Except Fault String := (Utf8.decode bytes).mapError .encoding

def ofDraft (d : Draft) : Except Fault Section := do
  let first ← textOf d.first
  if first.isEmpty then throw .noBegin
  let last ← textOf d.last
  if last.isEmpty then throw .noEnd
  if first ≠ last then throw (.mismatch first last)
  let data := join "" ((lines (← textOf d.data)).map fun line =>
    String.ofList (dropBlankEnd line.toList))
  let content ← (Base64.decode (Utf8.encode data)).mapError .data
  match (lines (← textOf d.headers)).find? fun line => !line.toList.contains ':' with
  | some line => throw (.header line)
  | none => return { label := first, content }

def readUpTo : Nat → List UInt8 → Except Fault (List Section)
  | 0, _ => .ok []
  | fuel + 1, bytes =>
      match next? bytes with
      | none => .ok []
      | some (draft, rest) => do
          let found ← ofDraft draft
          return found :: (← readUpTo fuel rest)

def read (bytes : List UInt8) : Except Fault (List Section) := readUpTo bytes.length bytes

end NotebookCheck.Text.Pem
