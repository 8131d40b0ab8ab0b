import NotebookCheck.Number.Decimal
import NotebookCheck.Shape
import NotebookCheck.Yaml

namespace NotebookCheck.Yaml.Scalar

open Number

def isNull (s : String) : Bool := s.isEmpty || ["null", "Null", "NULL", "~"].contains s

def bool? (s : String) : Option Bool :=
  if ["true", "True", "TRUE"].contains s then some true
  else if ["false", "False", "FALSE"].contains s then some false
  else none

def bases : List (List Char × Nat) :=
  [("0x".toList, 16), ("0o".toList, 8), ("0b".toList, 2)]

/-- The number of digits of a base, of which there has to be one at least. -/
def digits? (base : Nat) (cs : List Char) : Option Nat :=
  if !cs.isEmpty && cs.all (isDigitOf base) then some (valueOf base cs) else none

def after? (front cs : List Char) : Option (List Char) :=
  if front.isPrefixOf cs then some (cs.drop front.length) else none

def based? (front cs : List Char) : Option Nat :=
  bases.findSome? fun b => (after? (front ++ b.1) cs).bind (digits? b.2)

def dropPlus (cs : List Char) : List Char := (after? ['+'] cs).getD cs

/-- There are only digits after an optional sign, and the first of several ones is a zero. -/
def hasLeadingZero (cs : List Char) : Bool :=
  let cs := ((after? ['-'] cs).orElse fun _ => after? ['+'] cs).getD cs
  match cs with
  | '0' :: c :: rest => (c :: rest).all Char.isDigit
  | _ => false

def natural? (cs : List Char) : Option Nat :=
  let magnitude := dropPlus cs
  (based? [] magnitude).orElse fun _ =>
    if hasLeadingZero cs then none else digits? 10 magnitude

def negated? (cs : List Char) : Option Nat :=
  (based? ['-'] cs).orElse fun _ =>
    if hasLeadingZero cs then none else (after? ['-'] cs).bind (digits? 10)

def real? (cs : List Char) : Option Binary64 := do
  let negative := cs.head? = some '-'
  let cs := (after? ['-'] cs).getD cs
  let (whole, cs) := cs.span Char.isDigit
  let (places, cs) :=
    match cs with
    | '.' :: cs => cs.span Char.isDigit
    | cs => ([], cs)
  if whole.isEmpty && places.isEmpty then none
  else
    let exponent ← exponent? cs
    Binary64.ofDigits? negative (valueOf 10 (whole ++ places)) (exponent - places.length)
where
  /-- The exponent that is written at the end of a number. -/
  exponent? : List Char → Option Int
    | [] => some 0
    | c :: cs =>
        if c = 'e' || c = 'E' then
          match after? ['-'] cs with
          | some cs => (digits? 10 cs).map fun n => -(n : Int)
          | none => (digits? 10 (dropPlus cs)).map fun n => (n : Int)
        else none

def float? (s : String) : Option Num :=
  let cs := s.toList
  let magnitude := String.ofList (dropPlus cs)
  if [".inf", ".Inf", ".INF"].contains magnitude then some (.infinite false)
  else if ["-.inf", "-.Inf", "-.INF"].contains s then some (.infinite true)
  else if [".nan", ".NaN", ".NAN"].contains s then some .none
  else if cs.head? = some '+' && magnitude.startsWith "-" then none
  else (real? magnitude.toList).map .real

def anyValue : String := "any YAML value"

def whole? (s : String) : Option (Except String Yaml) :=
  let cs := s.toList
  let wide (n : Int) (width : String) : Option (Except String Yaml) :=
    some (.error (Shape.misfit s!"integer `{n}` as {width}" anyValue))
  match natural? cs, negated? cs with
  | some n, _ =>
      if n < UInt64.size then some (.ok (.num (.whole n)))
      else if n < Nat.pow 2 128 then wide n "u128"
      else none
  | none, some n =>
      if n ≤ Nat.pow 2 63 then some (.ok (.num (.whole (-(n : Int)))))
      else if n ≤ Nat.pow 2 127 then wide (-(n : Int)) "i128"
      else none
  | none, none => none

def plain (s : String) : Except String Yaml :=
  if isNull s then .ok .null
  else
    match bool? s, whole? s with
    | some b, _ => .ok (.bool b)
    | none, some n => n
    | none, none =>
        if hasLeadingZero s.toList then .ok (.string s)
        else
          match float? s with
          | some x => .ok (.num x)
          | none => .ok (.string s)

def commonTag (kind : String) : String := "tag:yaml.org,2002:" ++ kind

/-- What a scalar with the tag of one of the kinds stands for; with another tag it is a text. -/
def ofTag (tag s : String) : Except String Yaml :=
  let only (expected : String) : Option Yaml → Except String Yaml
    | some value => .ok value
    | none => .error (Shape.refused ("string " ++ Text.quoted s) expected)
  if tag = commonTag "bool" then only "a boolean" ((bool? s).map .bool)
  else if tag = commonTag "int" then (whole? s).getD (only "an integer" none)
  else if tag = commonTag "float" then only "a float" ((float? s).map .num)
  else if tag = commonTag "null" then
    only "null" (if isNull s && !s.isEmpty then some .null else none)
  else .ok (.string s)

end NotebookCheck.Yaml.Scalar
