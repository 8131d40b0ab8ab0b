namespace NotebookCheck.Yaml

/-- A place in a text: how many characters come before it, how many lines, and how many characters
of its own line. -/
structure Mark where
  index : Nat := 0
  line : Nat := 0
  column : Nat := 0
deriving Repr, DecidableEq, Inhabited

namespace Mark

def isStart (m : Mark) : Bool := m.line = 0 && m.column = 0

def text (m : Mark) : String := s!"line {m.line + 1} column {m.column + 1}"

def ending (m : Mark) : String := if m.isStart then "" else " at " ++ m.text

def sameSpot (m n : Mark) : Bool := m.line = n.line && m.column = n.column

end Mark

inductive Activity where
  | nextToken
  | simpleKey
  | directive
  | versionDirective
  | tagDirective
  | tagDirectivePart
  | anchor
  | aliasName
  | tag
  | tagPart
  | blockScalar
  | quotedScalar
  | quotedEscape
  | plainScalar
  | node
  | blockNode
  | flowNode
  | blockCollection
  | blockMapping
  | flowSequence
  | flowMapping
deriving Repr, DecidableEq, Inhabited

def Activity.text : Activity → String
  | nextToken => "while scanning for the next token"
  | simpleKey => "while scanning a simple key"
  | directive => "while scanning a directive"
  | versionDirective => "while scanning a %YAML directive"
  | tagDirective => "while scanning a %TAG directive"
  | tagDirectivePart => "while parsing a %TAG directive"
  | anchor => "while scanning an anchor"
  | aliasName => "while scanning an alias"
  | tag => "while scanning a tag"
  | tagPart => "while parsing a tag"
  | blockScalar => "while scanning a block scalar"
  | quotedScalar => "while scanning a quoted scalar"
  | quotedEscape => "while parsing a quoted scalar"
  | plainScalar => "while scanning a plain scalar"
  | node => "while parsing a node"
  | blockNode => "while parsing a block node"
  | flowNode => "while parsing a flow node"
  | blockCollection => "while parsing a block collection"
  | blockMapping => "while parsing a block mapping"
  | flowSequence => "while parsing a flow sequence"
  | flowMapping => "while parsing a flow mapping"

inductive Complaint where
  | control
  | noToken
  | keyWithoutColon
  | entryNotAllowed
  | keyNotAllowed
  | valueNotAllowed
  | unknownDirective
  | noDirectiveName
  | badDirectiveName
  | noLineEnd
  | noVersionPoint
  | noVersionNumber
  | longVersionNumber
  | noBlank
  | noBlankOrBreak
  | badAnchorName
  | noTagBracket
  | noTagMark
  | noTagName
  | badTagEscape
  | badLeadingOctet
  | badTrailingOctet
  | zeroIndentation
  | tabForIndentation
  | documentMark
  | endOfStream
  | unknownEscape
  | badEscapeDigits
  | badEscapeCode
  | colonInFlow
  | tabInPlain
  | noDocumentStart
  | repeatedVersion
  | otherVersion
  | repeatedHandle
  | unknownHandle
  | noContent
  | noEntry
  | noKey
  | noSequenceEnd
  | noMappingEnd
  | unknownAnchor
  | tooDeep
  | tooOften
  | misfit (place reason : String)
deriving Repr, DecidableEq, Inhabited

def rootPlace : String := "."

def Complaint.text : Complaint → String
  | control => "control characters are not allowed"
  | noToken => "found character that cannot start any token"
  | keyWithoutColon => "could not find expected ':'"
  | entryNotAllowed => "block sequence entries are not allowed in this context"
  | keyNotAllowed => "mapping keys are not allowed in this context"
  | valueNotAllowed => "mapping values are not allowed in this context"
  | unknownDirective => "found unknown directive name"
  | noDirectiveName => "could not find expected directive name"
  | badDirectiveName => "found unexpected non-alphabetical character"
  | noLineEnd => "did not find expected comment or line break"
  | noVersionPoint => "did not find expected digit or '.' character"
  | noVersionNumber => "did not find expected version number"
  | longVersionNumber => "found extremely long version number"
  | noBlank => "did not find expected whitespace"
  | noBlankOrBreak => "did not find expected whitespace or line break"
  | badAnchorName => "did not find expected alphabetic or numeric character"
  | noTagBracket => "did not find the expected '>'"
  | noTagMark => "did not find expected '!'"
  | noTagName => "did not find expected tag URI"
  | badTagEscape => "did not find URI escaped octet"
  | badLeadingOctet => "found an incorrect leading UTF-8 octet"
  | badTrailingOctet => "found an incorrect trailing UTF-8 octet"
  | zeroIndentation => "found an indentation indicator equal to 0"
  | tabForIndentation => "found a tab character where an indentation space is expected"
  | documentMark => "found unexpected document indicator"
  | endOfStream => "found unexpected end of stream"
  | unknownEscape => "found unknown escape character"
  | badEscapeDigits => "did not find expected hexdecimal number"
  | badEscapeCode => "found invalid Unicode character escape code"
  | colonInFlow => "found unexpected ':'"
  | tabInPlain => "found a tab character that violates indentation"
  | noDocumentStart => "did not find expected <document start>"
  | repeatedVersion => "found duplicate %YAML directive"
  | otherVersion => "found incompatible YAML document"
  | repeatedHandle => "found duplicate %TAG directive"
  | unknownHandle => "found undefined tag handle"
  | noContent => "did not find expected node content"
  | noEntry => "did not find expected '-' indicator"
  | noKey => "did not find expected key"
  | noSequenceEnd => "did not find expected ',' or ']'"
  | noMappingEnd => "did not find expected ',' or '\x7d'"
  | unknownAnchor => "unknown anchor"
  | tooDeep => "recursion limit exceeded"
  | tooOften => "repetition limit exceeded"
  | misfit place reason => if place = rootPlace then reason else place ++ ": " ++ reason

/-- A complaint with its place, or with the number of bytes before it, and with what was being
read and where that began. -/
structure Flaw where
  complaint : Complaint
  mark : Mark := {}
  activity : Option (Activity × Mark) := none
  offset : Nat := 0
deriving Repr, DecidableEq, Inhabited

namespace Flaw

def ending (f : Flaw) : String :=
  if !f.mark.isStart then f.mark.ending
  else if f.offset ≠ 0 then s!" at position {f.offset}"
  else ""

def message (f : Flaw) : String :=
  f.complaint.text ++ f.ending ++
    match f.activity with
    | none => ""
    | some (activity, mark) =>
        ", " ++ activity.text ++ if mark.sameSpot f.mark then "" else mark.ending

end Flaw

end NotebookCheck.Yaml
