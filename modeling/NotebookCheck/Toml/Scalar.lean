import NotebookCheck.Number.Decimal
import NotebookCheck.Toml.Table

namespace NotebookCheck.Toml

open Number

/-- Digits without the underscores between them; an underscore that does not stand between two
digits is refused, and so is the absence of digits. -/
def plainDigits? (isDigit : Char → Bool) : List Char → Option (List Char)
  | [] => none
  | [c] => if isDigit c then some [c] else none
  | c :: '_' :: rest => if isDigit c then (plainDigits? isDigit rest).map (c :: ·) else none
  | c :: rest => if isDigit c then (plainDigits? isDigit rest).map (c :: ·) else none

def decimal? (cs : List Char) : Option (List Char) := do
  match ← plainDigits? Char.isDigit cs with
  | '0' :: _ :: _ => none
  | digits => some digits

def wide? (n : Int) : Option Int :=
  if -(Nat.pow 2 127) ≤ n && n < Nat.pow 2 128 then some n else none

def sign : List Char → Bool × List Char
  | '-' :: rest => (true, rest)
  | '+' :: rest => (false, rest)
  | cs => (false, cs)

def whole? (cs : List Char) : Option Int :=
  match cs with
  | '0' :: 'x' :: rest => based 16 rest
  | '0' :: 'o' :: rest => based 8 rest
  | '0' :: 'b' :: rest => based 2 rest
  | cs => do
      let (negative, rest) := sign cs
      let n := valueOf 10 (← decimal? rest)
      wide? (if negative then -(n : Int) else n)
where
  /-- A whole number without a sign in a number system. -/
  based (base : Nat) (cs : List Char) : Option Int := do
    wide? (valueOf base (← plainDigits? (isDigitOf base) cs))

def exponent? : List Char → Option Int
  | [] => some 0
  | _ :: rest => do
      let (negative, rest) := sign rest
      let n := valueOf 10 (← plainDigits? Char.isDigit rest)
      return if negative then -(n : Int) else n

def fraction? : List Char → Option (List Char)
  | [] => some []
  | _ :: rest => plainDigits? Char.isDigit rest

/-- The text is a number with a point or an exponent that is not too large, or one of the numbers
that are named. -/
def isReal (cs : List Char) : Bool :=
  let (negative, rest) := sign cs
  if rest = ['i', 'n', 'f'] || rest = ['n', 'a', 'n'] then true
  else
    let (mantissa, power) := rest.span fun c => c ≠ 'e' && c ≠ 'E'
    let (before, after) := mantissa.span (· ≠ '.')
    if power.isEmpty && after.isEmpty then false
    else
      match decimal? before, fraction? after, exponent? power with
      | some before, some after, some exponent =>
          (Binary64.ofDigits? negative (valueOf 10 (before ++ after))
            (exponent - (after.length : Int))).isSome
      | _, _, _ => false

def twoDigits? : List Char → Option (Nat × List Char)
  | a :: b :: rest =>
      if a.isDigit && b.isDigit then some (valueOf 10 [a, b], rest) else none
  | _ => none

def daysOf (year month : Nat) : Nat :=
  if month = 2 then
    if year % 4 = 0 && (year % 100 ≠ 0 || year % 400 = 0) then 29 else 28
  else if month = 4 || month = 6 || month = 9 || month = 11 then 30
  else 31

def afterDate? (cs : List Char) : Option (List Char) := do
  let (century, rest) ← twoDigits? cs
  let (years, rest) ← twoDigits? rest
  let (month, rest) ← dashed? rest
  let (day, rest) ← dashed? rest
  if 1 ≤ month && month ≤ 12 && 1 ≤ day && day ≤ daysOf (century * 100 + years) month then
    return rest
  else none
where
  /-- Two digits after a dash. -/
  dashed? : List Char → Option (Nat × List Char)
    | '-' :: rest => twoDigits? rest
    | _ => none

def afterSeconds? : List Char → Option (List Char)
  | ':' :: rest => do
      let (second, rest) ← twoDigits? rest
      if 60 < second then none
      else
        match rest with
        | '.' :: rest =>
            let (digits, rest) := rest.span Char.isDigit
            if digits.isEmpty then none else some rest
        | rest => some rest
  | rest => some rest

def afterTime? (cs : List Char) : Option (List Char) := do
  let (hour, rest) ← twoDigits? cs
  match rest with
  | ':' :: rest =>
      let (minute, rest) ← twoDigits? rest
      if hour ≤ 23 && minute ≤ 59 then afterSeconds? rest else none
  | _ => none

def isOffset (cs : List Char) : Bool :=
  match cs with
  | [] | ['Z'] | ['z'] => true
  | c :: rest =>
      (c = '+' || c = '-') &&
        match twoDigits? rest with
        | some (hours, ':' :: rest) =>
            match twoDigits? rest with
            | some (minutes, []) => hours ≤ 23 && minutes ≤ 59
            | _ => false
        | _ => false

/-- The text is a date, a time of day, or both with or without an offset. -/
def isTime (cs : List Char) : Bool :=
  match afterDate? cs with
  | some [] => true
  | some (c :: rest) =>
      (c = 'T' || c = 't' || c = ' ') &&
        match afterTime? rest with
        | some rest => isOffset rest
        | none => false
  | none => afterTime? cs = some []

def scalar? (cs : List Char) : Option Node :=
  if cs = "true".toList then some (.flag true)
  else if cs = "false".toList then some (.flag false)
  else
    match whole? cs with
    | some n => some (.whole n)
    | none =>
        if isReal cs then some (.real (String.ofList cs))
        else if isTime cs then some (.time (String.ofList cs))
        else none

def isScalarEnd (c : Char) : Bool :=
  c = ' ' || c = '\t' || c = '\n' || c = '\r' || c = ',' || c = ']' || c = '\x7d' || c = '#'

/-- The text of a value without quotes and the rest; a date goes on after one space if a digit
follows. -/
def spanScalar (cs : List Char) : List Char × List Char :=
  let (first, rest) := cs.span fun c => !isScalarEnd c
  match rest with
  | ' ' :: d :: more =>
      if d.isDigit && afterDate? first = some [] then
        let (second, rest) := (d :: more).span fun c => !isScalarEnd c
        (first ++ ' ' :: second, rest)
      else (first, rest)
  | _ => (first, rest)

end NotebookCheck.Toml
