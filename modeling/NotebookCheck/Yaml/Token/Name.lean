import NotebookCheck.Number.Decimal
import NotebookCheck.Text.Unicode
import NotebookCheck.Yaml.Token

namespace NotebookCheck.Yaml

open Number Text

def readAnchor (activity : Activity) (c : Cursor) : Except Flaw (String × Cursor) :=
  let start := c.mark
  let (name, c) := (c.advance 1).span isNameChar
  if !name.isEmpty && (c.isGapAt 0 || c.nextIn "?:,]\x7d%@`") then .ok (String.ofList name, c)
  else c.flaw .badAnchorName activity start

def isTagChar (c : Char) : Bool := isNameChar c || ";/?:@&=+$.%!~*'()".toList.contains c

def isBracketedTagChar (c : Char) : Bool := isTagChar c || c = ',' || c = '[' || c = ']'

def tagActivity (inDirective : Bool) : Activity := if inDirective then .tagDirective else .tag

/-- What is being read in a part of a tag or of the tag of a directive. -/
def tagPartActivity (inDirective : Bool) : Activity :=
  if inDirective then .tagDirectivePart else .tagPart

/-- How many bytes a character has whose first byte is given, if it can be a first byte. -/
def leadingWidth? (b : UInt8) : Option Nat :=
  if b < 0x80 then some 1
  else if 0xC0 ≤ b && b < 0xE0 then some 2
  else if 0xE0 ≤ b && b < 0xF0 then some 3
  else if 0xF0 ≤ b && b < 0xF8 then some 4
  else none

def readOctet (inDirective : Bool) (start : Mark) (c : Cursor) : Except Flaw (UInt8 × Cursor) :=
  match c.rest with
  | '%' :: high :: low :: _ =>
      match hexValue? high, hexValue? low with
      | some h, some l => .ok ((16 * h + l).toUInt8, c.advance 3)
      | _, _ => c.flaw .badTagEscape (tagPartActivity inDirective) start
  | _ => c.flaw .badTagEscape (tagPartActivity inDirective) start

def readTrailing (inDirective : Bool) (start : Mark) :
    Nat → Cursor → Except Flaw (List UInt8 × Cursor)
  | 0, c => .ok ([], c)
  | n + 1, c => do
      let (b, after) ← readOctet inDirective start c
      if 0x80 ≤ b && b < 0xC0 then
        let (more, after) ← readTrailing inDirective start n after
        return (b :: more, after)
      else c.flaw .badTrailingOctet (tagPartActivity inDirective) start

def readOctets (inDirective : Bool) (start : Mark) (c : Cursor) :
    Except Flaw (List UInt8 × Cursor) := do
  let (b, after) ← readOctet inDirective start c
  match leadingWidth? b with
  | none => c.flaw .badLeadingOctet (tagPartActivity inDirective) start
  | some width =>
      let (more, after) ← readTrailing inDirective start (width - 1) after
      return (b :: more, after)

def readTagBytes (allowed : Char → Bool) (inDirective : Bool) (start : Mark) :
    Nat → Cursor → Except Flaw (List UInt8 × Cursor)
  | 0, c => .ok ([], c)
  | fuel + 1, c =>
      match c.peek with
      | some '%' => do
          let (bytes, c) ← readOctets inDirective start c
          let (more, c) ← readTagBytes allowed inDirective start fuel c
          return (bytes ++ more, c)
      | some ch =>
          if allowed ch then do
            let (more, c) ← readTagBytes allowed inDirective start fuel (c.advance 1)
            return (Utf8.encodeChar ch ++ more, c)
          else .ok ([], c)
      | none => .ok ([], c)

/-- Reads the characters of a tag after the given ones, one of which there has to be. -/
def readTagName (allowed : Char → Bool) (inDirective : Bool) (head : Option String) (start : Mark)
    (c : Cursor) : Except Flaw (String × Cursor) := do
  let (bytes, after) ← readTagBytes allowed inDirective start (c.rest.length + 1) c
  if head.isNone && bytes.isEmpty then
    after.flaw .noTagName (tagPartActivity inDirective) start
  else
    let head := String.ofList ((head.getD "").toList.drop 1)
    return (head ++ Utf8.decodeLossy bytes, after)

def readHandle (inDirective : Bool) (start : Mark) (c : Cursor) :
    Except Flaw (String × Cursor) :=
  if !c.nextIs '!' then c.flaw .noTagMark (tagActivity inDirective) start
  else
    let (name, c) := (c.advance 1).span isNameChar
    let text := String.ofList ('!' :: name)
    if c.nextIs '!' then .ok (text ++ "!", c.advance 1)
    else if inDirective && !name.isEmpty then c.flaw .noTagMark .tagDirectivePart start
    else .ok (text, c)

def isWholeHandle (handle : String) : Bool :=
  1 < handle.length && handle.startsWith "!" && handle.endsWith "!"

def readTagParts (start : Mark) (c : Cursor) : Except Flaw (String × String × Cursor) := do
  if c.peekAt 1 = some '<' then
    let (name, c) ← readTagName isBracketedTagChar false none start (c.advance 2)
    if c.nextIs '>' then return ("", name, c.advance 1) else c.flaw .noTagBracket .tag start
  else
    let (handle, c) ← readHandle false start c
    if isWholeHandle handle then
      let (name, c) ← readTagName isTagChar false none start c
      return (handle, name, c)
    else
      let (name, c) ← readTagName isTagChar false (some handle) start c
      if name.isEmpty then return ("", "!", c) else return ("!", name, c)

def readTag (inFlow : Bool) (c : Cursor) : Except Flaw (Word × Cursor) := do
  let start := c.mark
  let (handle, name, c) ← readTagParts start c
  if c.isGapAt 0 || (inFlow && c.nextIs ',') then return (.tag handle name, c)
  else c.flaw .noBlankOrBreak .tag start

def maxVersionDigits : Nat := 9

def readVersionNumber (start : Mark) (c : Cursor) : Except Flaw (Nat × Cursor) :=
  let (digits, after) := c.span Char.isDigit
  if maxVersionDigits < digits.length then
    (c.advance maxVersionDigits).flaw .longVersionNumber .versionDirective start
  else if digits.isEmpty then c.flaw .noVersionNumber .versionDirective start
  else .ok (valueOf 10 digits, after)

def readVersion (start : Mark) (c : Cursor) : Except Flaw (Word × Cursor) := do
  let (major, c) ← readVersionNumber start (c.skip isBlank)
  if !c.nextIs '.' then c.flaw .noVersionPoint .versionDirective start
  else
    let (minor, c) ← readVersionNumber start (c.advance 1)
    return (.version major minor, c)

/-- Reads the handle that a directive introduces, and the beginning of tags that it stands for. -/
def readHandleMeaning (start : Mark) (c : Cursor) : Except Flaw (Word × Cursor) := do
  let (handle, c) ← readHandle true start (c.skip isBlank)
  if !c.atBlank then c.flaw .noBlank .tagDirective start
  else
    let (name, c) ← readTagName isBracketedTagChar true none start (c.skip isBlank)
    if c.isGapAt 0 then return (.handle handle name, c)
    else c.flaw .noBlankOrBreak .tagDirective start

def readDirective (c : Cursor) : Except Flaw (Word × Cursor) := do
  let start := c.mark
  let (name, c) := (c.advance 1).span isNameChar
  let (word, c) ←
    if name.isEmpty then c.flaw .noDirectiveName .directive start
    else if !c.isGapAt 0 then c.flaw .badDirectiveName .directive start
    else if name = "YAML".toList then readVersion start c
    else if name = "TAG".toList then readHandleMeaning start c
    else c.flaw .unknownDirective .directive start
  let c := (c.skip isBlank).skipComment
  if c.atLineEnd then return (word, c.skipBreak) else c.flaw .noLineEnd .directive start

end NotebookCheck.Yaml
