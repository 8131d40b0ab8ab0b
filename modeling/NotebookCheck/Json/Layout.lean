import NotebookCheck.Json
import NotebookCheck.Number.Decimal
import NotebookCheck.Text.Blank

namespace NotebookCheck.Json

open Number Text

def hexDigit (n : Nat) : Char := (Nat.toDigits 16 (n % 16)).headD '0'

def writtenChar (c : Char) : List Char :=
  if c = '"' then ['\\', '"']
  else if c = '\\' then ['\\', '\\']
  else if c = '\n' then ['\\', 'n']
  else if c = '\r' then ['\\', 'r']
  else if c = '\t' then ['\\', 't']
  else if c = '\x08' then ['\\', 'b']
  else if c = '\x0c' then ['\\', 'f']
  else if c.toNat < 0x20 then
    ['\\', 'u', '0', '0', hexDigit (c.toNat / 16), hexDigit c.toNat]
  else [c]

def writtenText (s : String) : String :=
  String.ofList ('"' :: s.toList.flatMap writtenChar ++ ['"'])

mutual

def compact : Json → String
  | null => "null"
  | bool b => if b then "true" else "false"
  | int n => toString n
  | real x => x.text
  | string s => writtenText s
  | array items => "[" ++ join "," (compactItems items) ++ "]"
  | object fields => "\x7b" ++ join "," (compactFields fields) ++ "\x7d"

def compactItems : List Json → List String
  | [] => []
  | item :: rest => compact item :: compactItems rest

def compactFields : List (String × Json) → List String
  | [] => []
  | (name, value) :: rest => (writtenText name ++ ":" ++ compact value) :: compactFields rest

end

def newline (depth : Nat) : String :=
  String.ofList ('\n' :: List.replicate (2 * depth) ' ')

mutual

/-- A value over several lines, two blanks for each level; empty lists and objects stay on one. -/
def indented (depth : Nat) : Json → String
  | null => "null"
  | bool b => if b then "true" else "false"
  | int n => toString n
  | real x => x.text
  | string s => writtenText s
  | array [] => "[]"
  | array (item :: rest) =>
      "[" ++ newline (depth + 1) ++
        join ("," ++ newline (depth + 1)) (indentedItems (depth + 1) (item :: rest)) ++
        newline depth ++ "]"
  | object [] => "\x7b\x7d"
  | object (field :: rest) =>
      "\x7b" ++ newline (depth + 1) ++
        join ("," ++ newline (depth + 1)) (indentedFields (depth + 1) (field :: rest)) ++
        newline depth ++ "\x7d"

def indentedItems (depth : Nat) : List Json → List String
  | [] => []
  | item :: rest => indented depth item :: indentedItems depth rest

def indentedFields (depth : Nat) : List (String × Json) → List String
  | [] => []
  | (name, value) :: rest =>
      (writtenText name ++ ": " ++ indented depth value) :: indentedFields depth rest

end

end NotebookCheck.Json
