import NotebookCheck.Number.Decimal
import NotebookCheck.Text.Quoted

namespace NotebookCheck.Toml

open Number

/-- A control character that may not stand in a document, the tab and the line feed apart. -/
def isControl (c : Char) : Bool :=
  (c.toNat < 0x20 && c ≠ '\t' && c ≠ '\n') || c.toNat = 0x7F

def isPlain (c : Char) : Bool := !isControl c && c ≠ '\n'

def readCode : Nat → Nat → List Char → Option (Char × List Char)
  | 0, n, rest => if n.isValidChar then some (Char.ofNat n, rest) else none
  | k + 1, n, c :: rest => do readCode k (n * 16 + (← hexValue? c)) rest
  | _ + 1, _, [] => none

def readEscape : List Char → Option (Char × List Char)
  | [] => none
  | c :: rest =>
      match c with
      | 'b' => some ('\x08', rest)
      | 't' => some ('\t', rest)
      | 'n' => some ('\n', rest)
      | 'f' => some ('\x0c', rest)
      | 'r' => some ('\r', rest)
      | 'e' => some ('\x1b', rest)
      | '"' => some ('"', rest)
      | '\\' => some ('\\', rest)
      | 'x' => readCode 2 0 rest
      | 'u' => readCode 4 0 rest
      | 'U' => readCode 8 0 rest
      | _ => none

def readBasic : Nat → List Char → Option (List Char × List Char)
  | 0, _ => none
  | _, [] => none
  | fuel + 1, c :: rest =>
      if c = '"' then some ([], rest)
      else if c = '\\' then do
        let (escaped, rest) ← readEscape rest
        let (text, rest) ← readBasic fuel rest
        return (escaped :: text, rest)
      else if isPlain c then do
        let (text, rest) ← readBasic fuel rest
        return (c :: text, rest)
      else none

def readLiteral : List Char → Option (List Char × List Char)
  | [] => none
  | c :: rest =>
      if c = '\'' then some ([], rest)
      else if isPlain c then do
        let (text, rest) ← readLiteral rest
        return (c :: text, rest)
      else none

def lineEnd? : List Char → Option (List Char)
  | '\n' :: rest => some rest
  | '\r' :: '\n' :: rest => some rest
  | _ => none

def isGap (c : Char) : Bool := c = ' ' || c = '\t'

def skipGap (cs : List Char) : List Char := cs.dropWhile isGap

/-- The rest after a backslash that joins lines: nothing but blank characters up to the end of the
line, and then all blank characters and line ends. -/
def joinedLine? (cs : List Char) : Option (List Char) :=
  (lineEnd? (skipGap cs)).map skipFree
where
  /-- The rest after blank characters and line ends. -/
  skipFree : List Char → List Char
    | [] => []
    | c :: rest =>
        if isGap c || c = '\n' then skipFree rest
        else
          match c, rest with
          | '\r', '\n' :: rest => skipFree rest
          | _, _ => c :: rest

/-- The end of a text in threefold quotes of the given kind: three of them, and up to two more
before them that belong to the text. -/
def threefoldEnd? (quote : Char) (cs : List Char) : Option (List Char × List Char) :=
  match (cs.takeWhile (· = quote)).length with
  | 0 | 1 | 2 => none
  | 3 => some ([], cs.drop 3)
  | 4 => some ([quote], cs.drop 4)
  | _ => some ([quote, quote], cs.drop 5)

/-- A text in threefold quotes of the given kind, up to its end; only double quotes have escapes.
The first argument bounds its length. -/
def readThreefold (quote : Char) : Nat → List Char → Option (List Char × List Char)
  | 0, _ => none
  | fuel + 1, cs =>
      match threefoldEnd? quote cs, cs with
      | some (quotes, rest), _ => some (quotes, rest)
      | none, [] => none
      | none, c :: rest =>
          if quote = '"' && c = '\\' then
            match joinedLine? rest with
            | some rest => readThreefold quote fuel rest
            | none => do
                let (escaped, rest) ← readEscape rest
                let (text, rest) ← readThreefold quote fuel rest
                return (escaped :: text, rest)
          else
            match c, rest with
            | '\r', '\n' :: rest => do
                let (text, rest) ← readThreefold quote fuel rest
                return ('\r' :: '\n' :: text, rest)
            | _, _ =>
                if isControl c then none
                else do
                  let (text, rest) ← readThreefold quote fuel rest
                  return (c :: text, rest)

def dropFirstLineEnd (cs : List Char) : List Char :=
  (lineEnd? cs).getD cs

def readQuoted (quote : Char) (cs : List Char) : Option (List Char × List Char) :=
  if [quote, quote].isPrefixOf cs then
    let rest := dropFirstLineEnd (cs.drop 2)
    readThreefold quote (rest.length + 1) rest
  else readOneLine quote cs
where
  /-- A text that ends on its line. -/
  readOneLine (quote : Char) (cs : List Char) : Option (List Char × List Char) :=
    if quote = '"' then readBasic (cs.length + 1) cs else readLiteral cs

def codeDigits (c : Char) : List Char :=
  (Nat.toDigits 16 (c.toNat / 16) ++ Nat.toDigits 16 (c.toNat % 16)).map Char.toUpper

/-- A character as it is written in double quotes, where a line feed is escaped too. -/
def escapeChar (c : Char) : List Char :=
  match c with
  | '\x08' => ['\\', 'b']
  | '\t' => ['\\', 't']
  | '\n' => ['\\', 'n']
  | '\x0c' => ['\\', 'f']
  | '\r' => ['\\', 'r']
  | '"' => ['\\', '"']
  | '\\' => ['\\', '\\']
  | c => if isControl c then ['\\', 'u', '0', '0'] ++ codeDigits c else [c]

def escape (cs : List Char) : List Char := cs.flatMap escapeChar

/-- A text as it is written in threefold double quotes after a number of quotes: line feeds and
quotes stand for themselves, except that a third quote in a row is escaped. -/
def escapeLines : Nat → List Char → List Char
  | _, [] => []
  | quotes, c :: rest =>
      if c = '"' then
        if quotes = 2 then '\\' :: '"' :: escapeLines 0 rest
        else '"' :: escapeLines (quotes + 1) rest
      else if c = '\n' then '\n' :: escapeLines 0 rest
      else escapeChar c ++ escapeLines 0 rest

def longestRun (c : Char) (cs : List Char) : Nat :=
  (cs.foldl (fun (now, most) d =>
    if d = c then (now + 1, max most (now + 1)) else (0, most)) (0, 0)).2

def isWordly (c : Char) : Bool :=
  c.isAlphanum || c = '-' || c = '_' || c = '.' || c = '/' || c = ' ' || c = ':'

inductive QuoteForm where
  | basic
  | literal
  | basicLines
  | literalLines
deriving Repr, DecidableEq, Inhabited

def QuoteForm.of (cs : List Char) : QuoteForm :=
  let control := cs.any isControl
  let newline := cs.any (· = '\n')
  if cs.all isWordly then .basic
  else if !control && !newline && !cs.any fun c => c = '\\' || c = '"' then .basic
  else if !control && !newline && !cs.any (· = '\'') then .literal
  else if !control && !cs.any (· = '\\') && longestRun '"' cs ≤ 2 then .basicLines
  else if !control && longestRun '\'' cs ≤ 2 then .literalLines
  else if newline then .basicLines
  else .basic

/-- A text in threefold quotes starts on a line of its own if it has several lines. -/
def firstLineEnd (cs : List Char) : List Char :=
  if cs.any (· = '\n') then ['\n'] else []

def QuoteForm.write (form : QuoteForm) (cs : List Char) : List Char :=
  match form with
  | basic => ['"'] ++ escape cs ++ ['"']
  | literal => ['\''] ++ cs ++ ['\'']
  | basicLines => ['"', '"', '"'] ++ firstLineEnd cs ++ escapeLines 0 cs ++ ['"', '"', '"']
  | literalLines => ['\'', '\'', '\''] ++ firstLineEnd cs ++ cs ++ ['\'', '\'', '\'']

def writeText (s : String) : List Char :=
  (QuoteForm.of s.toList).write s.toList

end NotebookCheck.Toml
