/-!
Finite binary floating point numbers of 64 bits, as a sign, a mantissa and a power of two.  Every
operation is the exact one followed by a single rounding to the nearest number, a tie going to the
even mantissa.  The mantissa has 53 bits, or fewer at the least exponent.
-/

namespace NotebookCheck.Number

def roundDiv (num den : Nat) : Nat :=
  let q := num / den
  let r := num % den
  if 2 * r < den then q
  else if den < 2 * r then q + 1
  else if q % 2 = 0 then q
  else q + 1

def power (base : Nat) (exponent : Int) : Nat := base.pow exponent.toNat

/-- The number `mantissa * 2 ^ exponent` with a sign, which a zero has too. -/
structure Binary64 where
  negative : Bool
  mantissa : Nat
  exponent : Int
deriving Repr, DecidableEq, Inhabited

namespace Binary64

def minExponent : Int := -1074

def maxExponent : Int := 971

def zero : Binary64 := ⟨false, 0, minExponent⟩

def scaledRound (num den : Nat) (exponent : Int) : Nat :=
  roundDiv (num * power 2 (-exponent)) (den * power 2 exponent)

/-- The exponent at which the quotient has a mantissa of at most 53 bits: the least one for which
the quotient stays below `2 ^ 53`, and never below the least exponent. -/
def quotientExponent (num den : Nat) : Int :=
  let guess : Int := (num.log2 : Int) - (den.log2 : Int) - 52
  let guess :=
    if num * power 2 (-guess) < den * power 2 guess * Nat.pow 2 52 then guess - 1 else guess
  max minExponent guess

/-- The number nearest to a quotient with the given sign, if there is one in range. -/
def ofQuotient? (negative : Bool) (num den : Nat) : Option Binary64 :=
  if num = 0 then some { zero with negative }
  else
    let exponent := quotientExponent num den
    let mantissa := scaledRound num den exponent
    let (mantissa, exponent) :=
      if mantissa = Nat.pow 2 53 then (Nat.pow 2 52, exponent + 1) else (mantissa, exponent)
    if exponent ≤ maxExponent then some ⟨negative, mantissa, exponent⟩ else none

def greatest : Binary64 := ⟨false, Nat.pow 2 53 - 1, maxExponent⟩

def ofQuotient (num den : Nat) : Binary64 :=
  (ofQuotient? false num den).getD greatest

def ofNat (n : Nat) : Binary64 := ofQuotient n 1

def toQuotient (x : Binary64) : Nat × Nat :=
  (x.mantissa * power 2 x.exponent, power 2 (-x.exponent))

def addMagnitudes (x y : Binary64) : Binary64 :=
  let a := x.toQuotient
  let b := y.toQuotient
  ofQuotient (a.1 * b.2 + b.1 * a.2) (a.2 * b.2)

def times? (x y : Binary64) : Option Binary64 :=
  let a := x.toQuotient
  let b := y.toQuotient
  ofQuotient? (x.negative != y.negative) (a.1 * b.1) (a.2 * b.2)

/-- The rounded quotient of two numbers, the second of which is not zero, if it is in range. -/
def over? (x y : Binary64) : Option Binary64 :=
  let a := x.toQuotient
  let b := y.toQuotient
  ofQuotient? (x.negative != y.negative) (a.1 * b.2) (a.2 * b.1)

/-- A duration in milliseconds as seconds: the whole seconds and the fraction are each rounded,
and so is their sum. -/
def ofMillis (ms : Nat) : Binary64 :=
  addMagnitudes (ofNat (ms / 1000)) (ofQuotient (ms % 1000) 1000)

def ofDecimal? (negative : Bool) (digits : Nat) (exponent : Int) : Option Binary64 :=
  ofQuotient? negative (digits * power 10 exponent) (power 10 (-exponent))

def toRat (x : Binary64) : Rat :=
  let magnitude := mkRat x.toQuotient.1 x.toQuotient.2
  if x.negative then -magnitude else magnitude

end Binary64

end NotebookCheck.Number
