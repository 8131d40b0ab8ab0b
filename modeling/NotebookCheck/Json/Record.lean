import NotebookCheck.Json

namespace NotebookCheck.Json

open Number

inductive Slot where
  | given (value : Json)
  | absent
  | cutOff

/-- The slots of the named fields, in their order; a list has no value past its end, and must not
have more values than there are fields. -/
def slots? (names : List String) : Json → Option (List Slot)
  | object fields =>
      some (names.map fun name =>
        match fields.lookup name with
        | some value => .given value
        | none => .absent)
  | array items =>
      if items.length ≤ names.length then
        some (items.map .given ++ List.replicate (names.length - items.length) .cutOff)
      else none
  | _ => none

def Slot.required {α : Type} (read : Json → Option α) : Slot → Option α
  | given value => read value
  | _ => none

def Slot.nullable {α : Type} (read : Json → Option α) : Slot → Option (Option α)
  | given null => some none
  | given value => (read value).map some
  | absent => some none
  | cutOff => none

def Slot.defaulted {α : Type} (default : α) (read : Json → Option α) : Slot → Option α
  | given value => read value
  | _ => some default

def text? : Json → Option String
  | string s => some s
  | _ => none

def bool? : Json → Option Bool
  | bool b => some b
  | _ => none

def intIn? (low high : Int) : Json → Option Int
  | int n => if low ≤ n && n ≤ high then some n else none
  | _ => none

def natBelow? (bound : Nat) : Json → Option Nat
  | int n => if 0 ≤ n && n < bound then some n.toNat else none
  | _ => none

def number? : Json → Option Binary64
  | int n => Binary64.ofQuotient? (n < 0) n.natAbs 1
  | real x => some x
  | _ => none

def list? {α : Type} (read : Json → Option α) : Json → Option (List α)
  | array items => items.mapM read
  | _ => none

def fields? {α : Type} (read : Json → Option α) : Json → Option (List (String × α))
  | object fields => fields.mapM fun f => (read f.2).map fun value => (f.1, value)
  | _ => none

/-- A choice between alternatives: the name of one that carries nothing, or an object with the name
of one as its only field and what it carries as its value. -/
def variant? : Json → Option (String × Option Json)
  | string name => some (name, none)
  | object [(name, value)] => some (name, some value)
  | _ => none

def carriesNothing : Option Json → Bool
  | none => true
  | some null => true
  | some _ => false

def given? (name : String) (j : Json) : Option Json :=
  match j.field? name with
  | some .null => none
  | value => value

def textIn? (name : String) (j : Json) : Option String := (given? name j).bind text?

def itemsIn (name : String) (j : Json) : List Json :=
  ((given? name j).bind (list? some)).getD []

end NotebookCheck.Json
