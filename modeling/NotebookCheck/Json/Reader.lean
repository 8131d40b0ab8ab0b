import NotebookCheck.Json.Skip
import NotebookCheck.Number.Decimal
import NotebookCheck.Shape
import NotebookCheck.Text.Quoted
import NotebookCheck.Timestamp

/-!
Reading JSON texts whose values are to have a shape.  What is read are the values that the shape
speaks of; the fields of records that it does not name are gone past.  Reading stops at the first
flaw.  A value that is not of its shape is refused where it ends, and a record or list that is
refused as a whole ends with its bracket if that comes next.
-/

namespace NotebookCheck.Json

open Number Reading Text

def maxDepth : Nat := 128

def foundWhole (n : Int) : String := s!"integer `{n}`"

def foundText (s : String) : String := "string " ++ quoted s

def foundNumber : Json → String
  | .int n => foundWhole n
  | .real x => s!"floating point `{x.text}`"
  | _ => "null"

def refuse {α : Type} (reason : String) : Reading α := fail (.misfit reason)

def mismatch {α : Type} (expected : String) : Reading α := do
  match ← peek with
  | some 'n' => do
      word "null".toList
      refuse (Shape.misfit "null" expected)
  | some 't' => do
      word "true".toList
      refuse (Shape.misfit "boolean `true`" expected)
  | some 'f' => do
      word "false".toList
      refuse (Shape.misfit "boolean `false`" expected)
  | some '"' => do
      step
      let text ← quotedText
      refuse (Shape.misfit (foundText text) expected)
  | some '[' => refuse (Shape.misfit "sequence" expected)
  | some '\x7b' => refuse (Shape.misfit "map" expected)
  | some c =>
      if c = '-' || c.isDigit then do
        let n ← numeral
        refuse (Shape.misfit (foundNumber n) expected)
      else failNext .expectedValue
  | none => failNext .expectedValue

def text (expected : String) : Reading String := do
  match ← peekPastSpace with
  | some '"' => do
      step
      quotedText
  | some _ => mismatch expected
  | none => failNext .endInValue

def flag : Reading Json := do
  match ← peekPastSpace with
  | some 't' => do
      word "true".toList
      return .bool true
  | some 'f' => do
      word "false".toList
      return .bool false
  | some _ => mismatch Shape.flag.expected
  | none => failNext .endInValue

def nothing : Reading Unit := do
  match ← peekPastSpace with
  | some 'n' => word "null".toList
  | some _ => mismatch "unit"
  | none => failNext .endInValue

def whole (name : String) (low high : Int) : Reading Json := do
  match ← peekPastSpace with
  | none => failNext .endInValue
  | some c =>
      if c = '-' || c.isDigit then do
        match ← numeral with
        | .int n =>
            if low ≤ n && n ≤ high then return .int n
            else refuse (Shape.refused (foundWhole n) name)
        | n => refuse (Shape.misfit (foundNumber n) name)
      else mismatch name

def nameAmong (names : List String) : Reading String := do
  let name ← text (Shape.choice names).expected
  if names.contains name then return name else refuse (Shape.unknownName name names)

def enter (depth : Nat) : Reading Nat := do
  if depth ≤ 1 then failNext .tooDeep
  else do
    step
    return depth - 1

def choice (depth : Nat) (names : List String) : Reading Json := do
  match ← peekPastSpace with
  | some '"' => return .string (← nameAmong names)
  | some '\x7b' => do
      let _ ← enter depth
      let name ← nameAmong names
      colon
      nothing
      match ← peekPastSpace with
      | some '\x7d' => do
          step
          return .string name
      | some _ => fail .expectedValue
      | none => fail .endInObject
  | some _ => failNext .expectedValue
  | none => failNext .endInValue

/-- Goes past the end of a list; what is wrong if it does not come next. -/
def listEnd : Reading (Option Complaint) := do
  match ← peekPastSpace with
  | some ']' => do
      step
      return none
  | some ',' => do
      step
      return some (if (← peekPastSpace) = some ']' then .trailingComma else .trailing)
  | some _ => return some .trailing
  | none => return some .endInList

/-- Goes past the end of an object; what is wrong if it does not come next. -/
def objectEnd : Reading (Option Complaint) := do
  match ← peekPastSpace with
  | some '\x7d' => do
      step
      return none
  | some ',' => return some .trailingComma
  | some _ => return some .trailing
  | none => return some .endInObject

def settle (ending : Reading (Option Complaint)) (outcome : Except String Json) :
    Reading Json := do
  match outcome, ← ending with
  | .error reason, _ => refuse reason
  | .ok value, none => return value
  | .ok _, some complaint => failNext complaint

def anotherItem (first : Bool) : Reading Bool := do
  match ← peekPastSpace with
  | none => failNext .endInList
  | some ']' => return false
  | some c =>
      if first then return true
      else if c = ',' then do
        step
        match ← peekPastSpace with
        | some ']' => failNext .trailingComma
        | some _ => return true
        | none => failNext .endInValue
      else failNext .expectedItemEnd

def anotherName (first : Bool) : Reading (Option String) := do
  match ← peekPastSpace with
  | none => failNext .endInObject
  | some '\x7d' => return none
  | some c =>
      let c ←
        if first then pure (some c)
        else if c = ',' then do
          step
          peekPastSpace
        else failNext .expectedFieldEnd
      match c with
      | some '"' => do
          step
          return some (← quotedText)
      | some '\x7d' => failNext .trailingComma
      | some _ => failNext .keyNotText
      | none => failNext .endInValue

def putField (name : String) (value : Json) (fields : List (String × Json)) :
    List (String × Json) :=
  if (fields.lookup name).isSome then
    fields.map fun f => if f.1 = name then (name, value) else f
  else fields ++ [(name, value)]

def tooShort (n : Nat) (name : String) (fields : List (String × Shape)) : String :=
  let elements := if fields.length = 1 then "element" else "elements"
  s!"invalid length {n}, expected struct {name} with {fields.length} {elements}"

mutual

/-- A value of a shape, so many levels below the greatest depth; the first argument bounds its
length. -/
def readValue : Nat → Nat → Shape → Reading Json
  | 0, _, _ => failNext .endInValue
  | fuel + 1, depth, shape => do
      match shape with
      | .optional shape | .nullable shape => do
          match ← peekPastSpace with
          | some 'n' => do
              word "null".toList
              return .null
          | _ => readValue fuel depth shape
      | .defaulted shape => readValue fuel depth shape
      | .text => return .string (← text shape.expected)
      | .flag => flag
      | .whole name low high => whole name low high
      | .constant expected => do
          let found ← text shape.expected
          if found = expected then return .string found
          else refuse (Shape.refused (foundText found) expected)
      | .choice names => choice depth names
      | .time => do
          let found ← text shape.expected
          match Timestamp.check found with
          | .ok () => return .string found
          | .error fault => refuse fault.message
      | .list item => do
          match ← peekPastSpace with
          | some '[' => do
              let depth ← enter depth
              let items ← readItems fuel depth true item
              settle listEnd (.ok (.array items))
          | some _ => mismatch shape.expected
          | none => failNext .endInValue
      | .map value => do
          match ← peekPastSpace with
          | some '\x7b' => do
              let depth ← enter depth
              let entries ← readEntries fuel depth true value []
              settle objectEnd (.ok (.object entries))
          | some _ => mismatch shape.expected
          | none => failNext .endInValue
      | .emptyMap => do
          match ← peekPastSpace with
          | some '\x7b' => do
              let _ ← enter depth
              let outcome ← do
                match ← anotherName true with
                | none => pure (.ok (.object []))
                | some name => pure (.error (Shape.misfit (foundText name) "unit"))
              settle objectEnd outcome
          | some _ => mismatch shape.expected
          | none => failNext .endInValue
      | .strict name fields => do
          match ← peekPastSpace with
          | some '\x7b' => do
              let depth ← enter depth
              settle objectEnd (← readFields fuel depth true true fields [])
          | some '[' => do
              let depth ← enter depth
              let slots ← readSlots fuel depth 0 fields
              settle listEnd (match slots with
                | .ok values => .ok (.object values)
                | .error n => .error (tooShort n name fields))
          | some _ => mismatch shape.expected
          | none => failNext .endInValue
      | .loose _ fields => do
          match ← peekPastSpace with
          | some '\x7b' => do
              let depth ← enter depth
              settle objectEnd (← readFields fuel depth false true fields [])
          | some '[' => do
              let _ ← enter depth
              settle listEnd (.error (Shape.misfit "sequence" shape.expected))
          | some _ => mismatch shape.expected
          | none => failNext .endInValue
      | .numberOrName => do
          match ← peekPastSpace with
          | some '"' => return .string (← text shape.expected)
          | some '[' => do
              let _ ← enter depth
              settle listEnd (.error (Shape.misfit "sequence" shape.expected))
          | some '\x7b' => do
              let _ ← enter depth
              settle objectEnd (.error (Shape.misfit "map" shape.expected))
          | some c =>
              if c = '-' || c.isDigit then do
                match ← numeral with
                | .int n =>
                    if Int32.minValue.toInt ≤ n && n ≤ Int32.maxValue.toInt then return .int n
                    else refuse (Shape.refused (foundWhole n) "a 32-bit integer")
                | n => refuse (Shape.misfit (foundNumber n) shape.expected)
              else mismatch shape.expected
          | none => failNext .endInValue
      | .anything => do
          match ← peekPastSpace with
          | none => failNext .endInValue
          | some 'n' => do
              word "null".toList
              return .null
          | some '"' => return .string (← text Shape.text.expected)
          | some '[' => do
              let depth ← enter depth
              let items ← readItems fuel depth true .anything
              settle listEnd (.ok (.array items))
          | some '\x7b' => do
              let depth ← enter depth
              let entries ← readEntries fuel depth true .anything []
              settle objectEnd (.ok (.object entries))
          | some c =>
              if c = 't' || c = 'f' then flag
              else if c = '-' || c.isDigit then numeral
              else failNext .expectedValue

def readItems : Nat → Nat → Bool → Shape → Reading (List Json)
  | 0, _, _, _ => failNext .endInList
  | fuel + 1, depth, first, item => do
      if ← anotherItem first then do
        let value ← readValue fuel depth item
        return value :: (← readItems fuel depth false item)
      else return []

def readEntries : Nat → Nat → Bool → Shape → List (String × Json) →
    Reading (List (String × Json))
  | 0, _, _, _, _ => failNext .endInObject
  | fuel + 1, depth, first, shape, entries => do
      match ← anotherName first with
      | none => return entries
      | some name => do
          colon
          let value ← readValue fuel depth shape
          readEntries fuel depth false shape (putField name value entries)

/-- The values of a record's fields in a list, or their number if there are too few, after so
many. -/
def readSlots : Nat → Nat → Nat → List (String × Shape) →
    Reading (Except Nat (List (String × Json)))
  | 0, _, _, _ => failNext .endInList
  | _, _, _, [] => return .ok []
  | fuel + 1, depth, n, (name, shape) :: fields => do
      if ← anotherItem (n = 0) then do
        let value ← readValue fuel depth shape
        return (← readSlots fuel depth (n + 1) fields).map ((name, value) :: ·)
      else return .error n

/-- The fields of a record up to its end, after the given ones, or why the record is refused. -/
def readFields : Nat → Nat → Bool → Bool → List (String × Shape) → List (String × Json) →
    Reading (Except String Json)
  | 0, _, _, _, _, _ => failNext .endInObject
  | fuel + 1, depth, once, first, fields, given => do
      match ← anotherName first with
      | none =>
          match Shape.missing? fields (given.map (·.1)) with
          | some name => return .error (Shape.missing name)
          | none => return .ok (.object given)
      | some name =>
          match fields.lookup name with
          | none => do
              colon
              skipValue ((← get).rest.length + 1)
              readFields fuel depth once false fields given
          | some shape =>
              if once && (given.lookup name).isSome then return .error (Shape.repeated name)
              else do
                colon
                match shape with
                | .constant expected => do
                    let found ← text Shape.text.expected
                    if found = expected then
                      readFields fuel depth once false fields
                        (putField name (.string found) given)
                    else return .error (Shape.refused (foundText found) expected)
                | shape => do
                    let value ← readValue fuel depth shape
                    readFields fuel depth once false fields (putField name value given)

end

def read (shape : Shape) (bytes : List UInt8) : Except Flaw Json := do
  let whole : Reading Json := do
    let value ← readValue (4 * bytes.length + 16) maxDepth shape
    match ← peekPastSpace with
    | none => return value
    | some _ => failNext .trailing
  return (← whole.run { rest := bytes }).1

def read? (text : String) : Option Json :=
  (read .anything (Utf8.encode text)).toOption

end NotebookCheck.Json
