import NotebookCheck.Number.Binary64

namespace NotebookCheck

open Number

inductive Json where
  | null
  | bool (b : Bool)
  | int (n : Int)
  | real (x : Binary64)
  | string (s : String)
  | array (items : List Json)
  | object (fields : List (String × Json))
deriving Inhabited

namespace Json

def field? (name : String) : Json → Option Json
  | object fields => fields.lookup name
  | _ => none

def at? : List String → Json → Option Json
  | [], j => some j
  | name :: names, j => (j.field? name).bind (at? names)

def ofText? : Option String → Json
  | none => null
  | some s => string s

def ofTexts (texts : List String) : Json :=
  array (texts.map string)

def ofNat (n : Nat) : Json := int n

end Json

end NotebookCheck
