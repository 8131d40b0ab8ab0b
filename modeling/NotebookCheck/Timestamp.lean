import NotebookCheck.Text.Blank

namespace NotebookCheck.Timestamp

open Text

inductive Fault where
  | tooShort
  | invalid
  | outOfRange
  | tooLong
  | impossible
deriving Repr, DecidableEq, Inhabited

def Fault.message : Fault → String
  | tooShort => "premature end of input"
  | invalid => "input contains invalid characters"
  | outOfRange => "input is out of range"
  | tooLong => "trailing input"
  | impossible => "no possible date and time matching input"

/-- A point in time on a calendar of its own, seconds away from universal time; the sixtieth second
of a minute is one that was put in. -/
structure Parts where
  year : Int
  month : Nat
  day : Nat
  hour : Nat
  minute : Nat
  second : Nat
  offset : Int
deriving Repr, DecidableEq, Inhabited

def hasCalendar (year : Int) : Bool := -262143 ≤ year && year ≤ 262142

def daysOf (year : Int) (month : Nat) : Nat :=
  if month = 2 then
    if year % 4 = 0 && (year % 100 ≠ 0 || year % 400 = 0) then 29 else 28
  else if month = 4 || month = 6 || month = 9 || month = 11 then 30
  else 31

def skipBlank (cs : List Char) : List Char := cs.dropWhile isBlank

/-- The number of the decimal digits at the front, of which there has to be one. -/
def digits (most : Nat) (cs : List Char) : Except Fault (Nat × List Char) :=
  match cs with
  | [] => .error .tooShort
  | c :: _ =>
      if !c.isDigit then .error .invalid
      else
        let found := (cs.take most).takeWhile Char.isDigit
        let n := found.foldl (fun n c => n * 10 + (c.toNat - '0'.toNat)) 0
        if n < Nat.pow 2 63 then .ok (n, cs.drop found.length) else .error .outOfRange

def field (low high : Nat) (cs : List Char) : Except Fault (Nat × List Char) := do
  let (n, rest) ← digits 2 (skipBlank cs)
  if low ≤ n && n ≤ high then return (n, rest) else throw .outOfRange

def year (cs : List Char) : Except Fault (Int × List Char) := do
  let cs := skipBlank cs
  let (n, rest) ←
    match cs with
    | '-' :: rest => do
        let (n, rest) ← digits rest.length rest
        pure (-(n : Int), rest)
    | '+' :: rest => do
        let (n, rest) ← digits rest.length rest
        pure ((n : Int), rest)
    | cs => do
        let (n, rest) ← digits 4 cs
        pure ((n : Int), rest)
  if Int32.minValue.toInt ≤ n && n ≤ Int32.maxValue.toInt then return (n, rest)
  else throw .outOfRange

def literal (c : Char) (cs : List Char) : Except Fault (List Char) :=
  match cs with
  | [] => .error .tooShort
  | found :: rest => if found = c then .ok rest else .error .invalid

def skipFraction (cs : List Char) : Except Fault (List Char) :=
  match cs with
  | '.' :: rest => do
      let (_, rest) ← digits 9 rest
      return rest.dropWhile Char.isDigit
  | cs => .ok cs

def pair (cs : List Char) : Except Fault (Nat × List Char) :=
  match cs with
  | a :: b :: rest =>
      if a.isDigit && b.isDigit then
        .ok ((a.toNat - '0'.toNat) * 10 + (b.toNat - '0'.toNat), rest)
      else .error .invalid
  | [a] => if a.toNat < 0x80 then .error .tooShort else .error .invalid
  | [] => .error .tooShort

def offsetMinutes (cs : List Char) : Except Fault (Nat × List Char) := do
  let (n, rest) ← pair cs
  if n ≤ 59 then return (n, rest) else throw .outOfRange

def offset (cs : List Char) : Except Fault (Int × List Char) := do
  match cs with
  | [] => throw .tooShort
  | c :: rest =>
      if c = 'Z' || c = 'z' then return (0, rest)
      else if c = '+' || c = '-' || c = '\u2212' then
        let (hours, rest) ← pair rest
        let (minutes, rest) ← offsetMinutes (rest.dropWhile fun c => c = ':' || isBlank c)
        let seconds : Int := hours * 3600 + minutes * 60
        return (if c = '+' then seconds else -seconds, rest)
      else throw .invalid

def zone (cs : List Char) : Except Fault (Int × List Char) :=
  if (cs.take 3).map Char.toUpper = ['U', 'T', 'C'] then .ok (0, cs.drop 3) else offset cs

def parts (cs : List Char) : Except Fault Parts := do
  let (year, cs) ← year cs
  let (month, cs) ← field 1 12 (← literal '-' (skipBlank cs))
  let (day, cs) ← field 1 31 (← literal '-' (skipBlank cs))
  let cs ←
    match cs with
    | [] => throw .tooShort
    | c :: rest => if c = 'T' || c = 't' || c = ' ' then pure rest else throw .invalid
  let (hour, cs) ← field 0 23 cs
  let (minute, cs) ← field 0 59 (← literal ':' (skipBlank cs))
  let (second, cs) ← field 0 60 (← literal ':' (skipBlank cs))
  let (offset, cs) ← zone (skipBlank (← skipFraction cs))
  if (skipBlank cs).isEmpty then return { year, month, day, hour, minute, second, offset }
  else throw .tooLong

/-- Checks that parts name a point in time that the calendar has here and in universal time. -/
def Parts.check (p : Parts) : Except Fault Unit :=
  let second : Int := p.hour * 3600 + p.minute * 60 + min p.second 59
  let universal := second - p.offset
  if !hasCalendar p.year || daysOf p.year p.month < p.day then .error .outOfRange
  else if 86400 ≤ p.offset.natAbs then .error .outOfRange
  else if universal < 0 && p.month = 1 && p.day = 1 && !hasCalendar (p.year - 1) then
    .error .impossible
  else if 86400 ≤ universal && p.month = 12 && p.day = 31 && !hasCalendar (p.year + 1) then
    .error .impossible
  else .ok ()

def check (text : String) : Except Fault Unit := do
  (← parts text.toList).check

end NotebookCheck.Timestamp
