import NotebookCheck.Json.Numeral
import NotebookCheck.Json.Quoted

namespace NotebookCheck.Json

open Reading

def colon : Reading Unit := do
  match ← peekPastSpace with
  | some ':' => step
  | some _ => failNext .expectedColon
  | none => failNext .endInObject

/-- Goes past the name of a field that does not matter, and the colon after it. -/
def skipName : Reading Unit := do
  match ← peekPastSpace with
  | some '"' => do
      step
      skipText ((← get).rest.length + 1)
      colon
  | some _ => failNext .keyNotText
  | none => failNext .endInObject

mutual

def skipValue : Nat → Reading Unit
  | 0 => failNext .endInValue
  | fuel + 1 => do
      match ← peekPastSpace with
      | none => failNext .endInValue
      | some 'n' => word "null".toList
      | some 't' => word "true".toList
      | some 'f' => word "false".toList
      | some '"' => do
          step
          skipText ((← get).rest.length + 1)
      | some '[' => do
          step
          skipItems fuel true
      | some '\x7b' => do
          step
          skipFields fuel true
      | some c => if c = '-' || c.isDigit then skipNumeral else failNext .expectedValue

/-- Goes past the items of a list and its end, before the first item or after another one. -/
def skipItems : Nat → Bool → Reading Unit
  | 0, _ => failNext .endInList
  | fuel + 1, first => do
      match ← peekPastSpace with
      | none => failNext .endInList
      | some ']' => step
      | some c =>
          if first then do
            skipValue fuel
            skipItems fuel false
          else if c = ',' then do
            step
            skipValue fuel
            skipItems fuel false
          else failNext .expectedItemEnd

/-- Goes past the fields of an object and its end, before the first field or after another one. -/
def skipFields : Nat → Bool → Reading Unit
  | 0, _ => failNext .endInObject
  | fuel + 1, first => do
      match ← peekPastSpace with
      | none => failNext .endInObject
      | some '\x7d' => step
      | some c =>
          if first then do
            skipName
            skipValue fuel
            skipFields fuel false
          else if c = ',' then do
            step
            skipName
            skipValue fuel
            skipFields fuel false
          else failNext .expectedFieldEnd

end

end NotebookCheck.Json
