import NotebookCheck.Toml.Quoted
import NotebookCheck.Toml.Scalar

namespace NotebookCheck.Toml

/-- How many arrays and braces may stand inside each other, and how many names a key may have. -/
def maxDepth : Nat := 80

def isBare (c : Char) : Bool := c.isAlphanum || c = '-' || c = '_'

def readName (cs : List Char) : Option (String × List Char) :=
  match cs with
  | '"' :: rest => (readQuoted.readOneLine '"' rest).map fun (name, rest) =>
      (String.ofList name, rest)
  | '\'' :: rest => (readQuoted.readOneLine '\'' rest).map fun (name, rest) =>
      (String.ofList name, rest)
  | cs =>
      let (name, rest) := cs.span isBare
      if name.isEmpty then none else some (String.ofList name, rest)

/-- Names between points, with blank characters around them, as many as the first argument says or
fewer. -/
def readNames : Nat → List Char → Option (List String × List Char)
  | 0, _ => none
  | fuel + 1, cs => do
      let (name, rest) ← readName (skipGap cs)
      match skipGap rest with
      | '.' :: rest => do
          let (names, rest) ← readNames fuel rest
          return (name :: names, rest)
      | rest => return ([name], rest)

def readPath (cs : List Char) : Option (Path × List Char) := do
  let (names, rest) ← readNames maxDepth cs
  return (⟨names.dropLast, names.getLast?.getD ""⟩, rest)

def skipRemark? : List Char → Option (List Char)
  | '#' :: rest =>
      let (remark, rest) := rest.span fun c => c ≠ '\n' && c ≠ '\r'
      if remark.any isControl then none else some rest
  | cs => some cs

def skipLines? : Nat → List Char → Option (List Char)
  | 0, _ => none
  | fuel + 1, cs => do
      let rest ← skipRemark? (skipGap cs)
      match lineEnd? rest with
      | some rest => skipLines? fuel rest
      | none => some rest

def endStatement? (cs : List Char) : Option (List Char) := do
  let rest ← skipRemark? (skipGap cs)
  if rest.isEmpty then return [] else lineEnd? rest

mutual

/-- A value inside so many brackets; the first argument bounds the length of what is read. -/
def readValue : Nat → Nat → List Char → Option (Node × List Char)
  | 0, _, _ => none
  | fuel + 1, depth, cs =>
      match cs with
      | '"' :: rest => (readQuoted '"' rest).map fun (text, rest) =>
          (.text (String.ofList text), rest)
      | '\'' :: rest => (readQuoted '\'' rest).map fun (text, rest) =>
          (.text (String.ofList text), rest)
      | '[' :: rest =>
          if depth = maxDepth then none
          else (readItems fuel (depth + 1) rest).map fun (items, rest) => (.array items, rest)
      | '\x7b' :: rest =>
          if depth = maxDepth then none
          else (readPairs fuel (depth + 1) [] rest).map fun (entries, rest) =>
            (.table .braces entries, rest)
      | cs => do
          let (scalar, rest) := spanScalar cs
          return (← scalar? scalar, rest)

/-- The items of an array up to its closing bracket; a comma may follow the last one. -/
def readItems : Nat → Nat → List Char → Option (List Node × List Char)
  | 0, _, _ => none
  | fuel + 1, depth, cs => do
      match ← skipLines? (cs.length + 1) cs with
      | ']' :: rest => return ([], rest)
      | rest => do
          let (item, rest) ← readValue fuel depth rest
          match ← skipLines? (rest.length + 1) rest with
          | ',' :: rest => do
              let (items, rest) ← readItems fuel depth rest
              return (item :: items, rest)
          | ']' :: rest => return ([item], rest)
          | _ => none

/-- The values in braces up to the closing one, after the given entries; a comma may follow the
last one. -/
def readPairs : Nat → Nat → Entries → List Char → Option (Entries × List Char)
  | 0, _, _, _ => none
  | fuel + 1, depth, entries, cs => do
      match ← skipLines? (cs.length + 1) cs with
      | '\x7d' :: rest => return (entries, rest)
      | rest => do
          let (path, rest) ← readPath rest
          match ← skipLines? (rest.length + 1) rest with
          | '=' :: rest => do
              let rest ← skipLines? (rest.length + 1) rest
              let (value, rest) ← readValue fuel depth rest
              let entries ← entries.assign path value .header
              match ← skipLines? (rest.length + 1) rest with
              | ',' :: rest => readPairs fuel depth entries rest
              | '\x7d' :: rest => return (entries, rest)
              | _ => none
          | _ => none

end

/-- The statements of a document, put into effect one by one under the header that is open; the
first argument bounds their number. -/
def readStatements : Nat → List String → Entries → List Char → Option Entries
  | 0, _, _, _ => none
  | fuel + 1, header, entries, cs => do
      match ← skipLines? (cs.length + 1) cs with
      | [] => return entries
      | '[' :: '[' :: rest =>
          let (path, rest) ← readPath rest
          match rest with
          | ']' :: ']' :: rest =>
              let entries ← entries.openListed path
              readStatements fuel (path.through ++ [path.name]) entries (← endStatement? rest)
          | _ => none
      | '[' :: rest =>
          let (path, rest) ← readPath rest
          match rest with
          | ']' :: rest =>
              let entries ← entries.openTable path
              readStatements fuel (path.through ++ [path.name]) entries (← endStatement? rest)
          | _ => none
      | rest =>
          let (path, rest) ← readPath rest
          match rest with
          | '=' :: rest =>
              let (value, rest) ← readValue (rest.length + 1) 0 (skipGap rest)
              let entries ← entries.assignUnder header path value
              readStatements fuel header entries (← endStatement? rest)
          | _ => none

def read? (text : String) : Option Entries :=
  let cs :=
    match text.toList with
    | '\uFEFF' :: rest => rest
    | cs => cs
  readStatements (cs.length + 1) [] [] cs

end NotebookCheck.Toml
