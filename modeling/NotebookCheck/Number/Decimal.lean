import NotebookCheck.Number.Binary64

namespace NotebookCheck.Number

def hexValue? (c : Char) : Option Nat :=
  if '0' ≤ c && c ≤ '9' then some (c.toNat - '0'.toNat)
  else if 'a' ≤ c && c ≤ 'f' then some (c.toNat - 'a'.toNat + 10)
  else if 'A' ≤ c && c ≤ 'F' then some (c.toNat - 'A'.toNat + 10)
  else none

def isDigitOf (base : Nat) (c : Char) : Bool :=
  match hexValue? c with
  | some n => n < base
  | none => false

def valueOf (base : Nat) (digits : List Char) : Nat :=
  digits.foldl (fun n c => n * base + (hexValue? c).getD 0) 0

/-- The number nearest to `digits * 10 ^ exponent`, if it is in range; exponents past any use count
as zero or too large. -/
def Binary64.ofDigits? (negative : Bool) (digits : Nat) (exponent : Int) : Option Binary64 :=
  if digits = 0 then some { Binary64.zero with negative }
  else if exponent < -100000 then some { Binary64.zero with negative }
  else if 100000 < exponent then none
  else Binary64.ofDecimal? negative digits exponent

structure Decimal where
  digits : Nat
  exponent : Int
deriving Repr, DecidableEq, Inhabited

def compareScaled (a : Nat) (i : Int) (n : Nat) (j : Int) : Ordering :=
  compare (a * power 10 i * power 2 (-j)) (n * power 2 j * power 10 (-i))

namespace Binary64

def narrowBelow (x : Binary64) : Bool :=
  x.mantissa = Nat.pow 2 52 && minExponent < x.exponent

def readsBack (x : Binary64) (d : Decimal) : Bool :=
  let low := if x.narrowBelow then 4 * x.mantissa - 1 else 4 * x.mantissa - 2
  let high := 4 * x.mantissa + 2
  let atLow := compareScaled d.digits d.exponent low (x.exponent - 2)
  let atHigh := compareScaled d.digits d.exponent high (x.exponent - 2)
  let even := x.mantissa % 2 = 0
  (atLow = .gt || (even && atLow = .eq)) && (atHigh = .lt || (even && atHigh = .eq))

/-- A power of ten above the magnitude and near to it: an estimate of its exponent from the size
of the mantissa, which is never too small. -/
def decimalScale (x : Binary64) : Int :=
  ((x.mantissa.log2 : Int) + 1 + x.exponent) * 30103 / 100000 + 1

def neighbours (x : Binary64) (exponent : Int) : Decimal × Decimal :=
  let num := x.mantissa * power 2 x.exponent * power 10 (-exponent)
  let den := power 2 (-x.exponent) * power 10 exponent
  (⟨num / den, exponent⟩, ⟨num / den + 1, exponent⟩)

/-- The nearer of two neighbours in units of `10 ^ exponent`, the even one if both are as near. -/
def nearer (x : Binary64) (below above : Decimal) : Decimal :=
  match compareScaled (2 * below.digits + 1) below.exponent (2 * x.mantissa) x.exponent with
  | .lt => above
  | .gt => below
  | .eq => if below.digits % 2 = 0 then below else above

def decimalAt? (x : Binary64) (exponent : Int) : Option Decimal :=
  let (below, above) := x.neighbours exponent
  match x.readsBack below, x.readsBack above with
  | true, true => some (x.nearer below above)
  | true, false => some below
  | false, true => some above
  | false, false => none

def exactDecimal (x : Binary64) : Decimal :=
  ⟨x.mantissa * power 2 x.exponent * power 5 (-x.exponent), min x.exponent 0⟩

def dropZeros : Nat → Decimal → Decimal
  | 0, d => d
  | fuel + 1, d =>
      if d.digits ≠ 0 ∧ d.digits % 10 = 0 then dropZeros fuel ⟨d.digits / 10, d.exponent + 1⟩
      else d

/-- The shortest decimal that reads back as the magnitude of a number that is not zero. -/
def shortest (x : Binary64) : Decimal :=
  let scale := x.decimalScale
  let found := (List.range 20).findSome? fun (n : Nat) => x.decimalAt? (scale - (n : Int))
  let d := found.getD x.exactDecimal
  dropZeros (Nat.toDigits 10 d.digits).length d

end Binary64

/-- How a decimal is laid out: the exponents of the leading digit that are written with the point
in its place, and the sign in front of the other exponents. -/
structure DecimalLayout where
  plainFrom : Int
  plainBelow : Int

/-- The digits and the exponent of a decimal as text, always with a point or an exponent. -/
def DecimalLayout.render (layout : DecimalLayout) (d : Decimal) : String :=
  let ds := Nat.toDigits 10 d.digits
  let leading : Int := (ds.length : Int) + d.exponent - 1
  let text : List Char :=
    if layout.plainFrom ≤ leading && leading < layout.plainBelow then
      if 0 ≤ d.exponent then ds ++ List.replicate d.exponent.toNat '0' ++ ['.', '0']
      else if 0 ≤ leading then
        ds.take (leading.toNat + 1) ++ '.' :: ds.drop (leading.toNat + 1)
      else ['0', '.'] ++ List.replicate (-leading - 1).toNat '0' ++ ds
    else
      let mantissa :=
        match ds with
        | [] => []
        | [digit] => [digit]
        | digit :: rest => digit :: '.' :: rest
      mantissa ++ 'e' :: (toString leading).toList
  String.ofList text

/-- Seconds have their point in its place from a hundred-thousandth up to below `10 ^ 16`, and
every other number has a bare exponent. -/
def secondsLayout : DecimalLayout where
  plainFrom := -5
  plainBelow := 16

def Binary64.text (x : Binary64) : String :=
  let sign := if x.negative then "-" else ""
  if x.mantissa = 0 then sign ++ "0.0"
  else sign ++ secondsLayout.render x.shortest

def padded (width n : Nat) : List Char :=
  let ds := Nat.toDigits 10 n
  List.replicate (width - ds.length) '0' ++ ds

def Binary64.toPlaces (places : Nat) (x : Binary64) : String :=
  let quotient := x.toQuotient
  let units := roundDiv (quotient.1 * Nat.pow 10 places) quotient.2
  let sign := if x.negative then ['-'] else []
  String.ofList (sign ++ Nat.toDigits 10 (units / Nat.pow 10 places) ++ '.' ::
    padded places (units % Nat.pow 10 places))

def Binary64.hundredths (x : Binary64) : String := x.toPlaces 2

end NotebookCheck.Number
