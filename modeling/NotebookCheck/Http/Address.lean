namespace NotebookCheck.Http

inductive AddressFlaw where
  | empty
  | tooLong
  | schemeTooLong
  | badCharacter
  | badAuthority
  | badFormat
deriving Repr, DecidableEq, Inhabited

def AddressFlaw.message : AddressFlaw → String
  | empty => "empty string"
  | tooLong => "uri too long"
  | schemeTooLong => "scheme too long"
  | badCharacter => "invalid uri character"
  | badAuthority => "invalid authority"
  | badFormat => "invalid format"

structure Address where
  scheme : Option String := none
  authority : String := ""
  path : String := ""
  query : Option String := none
deriving Repr, DecidableEq, Inhabited

namespace Address

def maxLength : Nat := 65534

def maxSchemeLength : Nat := 64

def schemeMark : List Char := "://".toList

def isSchemeChar (c : Char) : Bool := c.isAlphanum || c = '+' || c = '-' || c = '.' || c = '~'

def isAuthorityChar (c : Char) : Bool :=
  '!' ≤ c && c ≤ '~' && !("\"%<>\\^`\x7b|\x7d".toList.contains c)

def isPathChar (c : Char) : Bool :=
  0x80 ≤ c.toNat || ('!' ≤ c && c ≤ '~' && !("#<>?`".toList.contains c))

def isQueryChar (c : Char) : Bool :=
  0x80 ≤ c.toNat || ('!' ≤ c && c ≤ '~' && !("\"#<>".toList.contains c))

def endsAuthority (c : Char) : Bool := c = '/' || c = '?' || c = '#'

structure Scan where
  colons : Nat := 0
  opened : Bool := false
  closed : Bool := false
  percent : Bool := false
  last : Option Char := none

def maxColons : Nat := 8

def Scan.add (s : Scan) (c : Char) : Except AddressFlaw Scan :=
  let s := { s with last := some c }
  if c = ':' then
    if s.colons ≥ maxColons then .error .badAuthority
    else .ok { s with colons := s.colons + 1 }
  else if c = '[' then
    if s.percent || s.opened then .error .badAuthority else .ok { s with opened := true }
  else if c = ']' then
    if !s.opened || s.closed then .error .badAuthority
    else .ok { s with closed := true, colons := 0, percent := false }
  else if c = '@' then .ok { s with colons := 0, percent := false }
  else if c = '%' then .ok { s with percent := true }
  else if isAuthorityChar c then .ok s
  else .error .badCharacter

def Scan.isWhole (s : Scan) : Bool :=
  s.opened = s.closed && s.colons ≤ 1 && s.last ≠ some '@' && !s.percent

def splitAuthority (cs : List Char) : Except AddressFlaw (List Char × List Char) := do
  let (authority, rest) := cs.span fun c => !endsAuthority c
  let scan ← authority.foldlM Scan.add {}
  if scan.isWhole then return (authority, rest) else throw .badAuthority

def pathAndQuery (cs : List Char) : Except AddressFlaw (String × Option String) :=
  let (path, rest) := cs.span fun c => c ≠ '?' && c ≠ '#'
  if !path.all isPathChar then .error .badCharacter
  else
    match rest with
    | '?' :: rest =>
        let query := rest.takeWhile (· ≠ '#')
        if query.all isQueryChar then .ok (String.ofList path, some (String.ofList query))
        else .error .badCharacter
    | _ => .ok (String.ofList path, none)

/-- The scheme at the front of a text, if there is one, and what follows its mark. -/
def splitScheme (cs : List Char) : Except AddressFlaw (Option String × List Char) :=
  let (name, rest) := cs.span isSchemeChar
  let lower := String.ofList (name.map Char.toLower)
  if !schemeMark.isPrefixOf rest then .ok (none, cs)
  else
    let rest := rest.drop schemeMark.length
    if lower = "http" || lower = "https" then .ok (some lower, rest)
    else if name.length > maxSchemeLength then .error .schemeTooLong
    else .ok (some (String.ofList name), rest)

def ofAuthority (cs : List Char) (e : AddressFlaw) : Except AddressFlaw Address := do
  let (authority, rest) ← splitAuthority cs
  if rest.isEmpty then return { authority := String.ofList authority } else throw e

def read (s : String) : Except AddressFlaw Address :=
  if s.utf8ByteSize > maxLength then .error .tooLong
  else
    match s.toList with
    | [] => .error .empty
    | ['*'] => .ok { path := "*" }
    | '/' :: rest => do
        let (path, query) ← pathAndQuery ('/' :: rest)
        return { path, query }
    | [c] => if 0x80 ≤ c.toNat then .error .badCharacter else ofAuthority [c] .badCharacter
    | cs => do
        match ← splitScheme cs with
        | (none, _) => ofAuthority cs .badFormat
        | (some scheme, rest) => do
            let (authority, rest) ← splitAuthority rest
            if authority.isEmpty then throw .badFormat
            else
              let (path, query) ← pathAndQuery rest
              return { scheme := some scheme, authority := String.ofList authority
                       path := if path.isEmpty then "/" else path, query }

def text (a : Address) : String :=
  (match a.scheme with
    | some scheme => scheme ++ "://"
    | none => "") ++ a.authority ++ a.path ++
    (match a.query with
      | some query => "?" ++ query
      | none => "")

end Address

end NotebookCheck.Http
