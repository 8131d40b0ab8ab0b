namespace NotebookCheck

/-- What a value is expected to be.  A strict record has each of its fields at most once, and may
also be a list of all its fields' values; a loose one takes the last value of a repeated field.  A
constant need not be given. -/
inductive Shape where
  | anything
  | text
  | flag
  | whole (name : String) (low high : Int)
  | constant (value : String)
  | choice (names : List String)
  | time
  | numberOrName
  | emptyMap
  | nullable (shape : Shape)
  | optional (shape : Shape)
  | defaulted (shape : Shape)
  | list (shape : Shape)
  | map (shape : Shape)
  | strict (name : String) (fields : List (String × Shape))
  | loose (name : String) (fields : List (String × Shape))
deriving Inhabited

namespace Shape

def long : Shape := whole "i64" Int64.minValue.toInt Int64.maxValue.toInt

def int : Shape := whole "i32" Int32.minValue.toInt Int32.maxValue.toInt

def short : Shape := whole "u16" 0 (UInt16.size - 1)

def size : Shape := whole "usize" 0 (UInt64.size - 1)

def optionals (name : String) (fields : List (String × Shape)) : Shape :=
  strict name (fields.map fun f => (f.1, optional f.2))

def entity (name : String) (fields : List (String × Shape)) : Shape :=
  loose name (fields.map fun f => (f.1, optional f.2))

def isOptional : Shape → Bool
  | optional _ | defaulted _ | constant _ => true
  | _ => false

def alternatives : List String → String
  | [] => "there are no variants"
  | [a] => s!"expected `{a}`"
  | [a, b] => s!"expected `{a}` or `{b}`"
  | names => "expected one of " ++ ", ".intercalate (names.map fun name => s!"`{name}`")

def expected : Shape → String
  | anything => "any value"
  | text => "a string"
  | flag => "a boolean"
  | whole name _ _ => name
  | constant _ => "a string"
  | choice _ => "variant identifier"
  | time => "an RFC 3339 formatted date and time string"
  | numberOrName => "enum IntOrString"
  | emptyMap => "a map"
  | nullable shape => expected shape
  | optional shape => expected shape
  | defaulted shape => expected shape
  | list _ => "a sequence"
  | map _ => "a map"
  | strict name _ => "struct " ++ name
  | loose name _ => name

def misfit (found expected : String) : String := s!"invalid type: {found}, expected {expected}"

def refused (found expected : String) : String := s!"invalid value: {found}, expected {expected}"

def unknownName (name : String) (names : List String) : String :=
  s!"unknown variant `{name}`, {alternatives names}"

def repeated (name : String) : String := s!"duplicate field `{name}`"

def missing (name : String) : String := s!"missing field `{name}`"

def missing? (fields : List (String × Shape)) (given : List String) : Option String :=
  (fields.find? fun f => !f.2.isOptional && !given.contains f.1).map (·.1)

end Shape

end NotebookCheck
