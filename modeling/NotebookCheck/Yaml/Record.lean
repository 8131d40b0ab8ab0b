import NotebookCheck.Json
import NotebookCheck.Shape
import NotebookCheck.Yaml

namespace NotebookCheck.Yaml

/-- The shape of a value that is there, and whether null may stand for one that is not. -/
def core : Shape → Bool × Shape
  | .optional shape | .nullable shape => (true, (core shape).2)
  | .defaulted shape => core shape
  | shape => (false, shape)

def Num.toJson : Num → Json
  | whole n => .int n
  | real x => .real x
  | _ => .null

def choiceKind : String := "a Value::Tagged enum"

def nothingMore : String := "unit"

def refusal {α : Type} (value : Yaml) (expected : String) : Except String α :=
  .error (Shape.misfit value.found expected)

def chosen (names : List String) (name : String) : Except String Json :=
  if names.contains name then .ok (.string name) else .error (Shape.unknownName name names)

def textKey (expected : String) (key : Yaml) : Except String String :=
  match key.untagged with
  | string s => .ok s
  | other => refusal other expected

def choice (names : List String) : Yaml → Except String Json
  | string s => chosen names s
  | tagged tag value => do
      let name ← chosen names (bareName tag)
      match value with
      | null => return name
      | other => refusal other nothingMore
  | other => refusal other choiceKind

/-- Any value; nothing in it may be tagged.  The first argument bounds how deep the value is. -/
def anything : Nat → Yaml → Except String Json
  | 0, _ => .ok .null
  | _, null => .ok .null
  | _, bool b => .ok (.bool b)
  | _, num n => .ok n.toJson
  | _, string s => .ok (.string s)
  | _, tagged tag value => refusal (tagged tag value) "any valid JSON value"
  | fuel + 1, sequence items => return .array (← items.mapM (anything fuel))
  | fuel + 1, mapping entries => do
      let fields ← entries.mapIdx (fun i e => (i, e)) |>.mapM fun (i, key, value) => do
        let name ← textKey (if i = 0 then "a string key" else Shape.text.expected) key
        return (name, ← anything fuel value)
      return .object fields

def entriesOf (expected : String) (value : Yaml) : Except String (List (Yaml × Yaml)) :=
  match value.untagged with
  | mapping entries => .ok entries
  | null => .ok []
  | other => refusal other expected

def itemsOf (expected : String) (value : Yaml) : Except String (List Yaml) :=
  match value.untagged with
  | sequence items => .ok items
  | null => .ok []
  | other => refusal other expected

mutual

def ofShape : Nat → Shape → Yaml → Except String Json
  | 0, shape, value => refusal value shape.expected
  | fuel + 1, shape, value =>
      let (nullable, shape) := core shape
      if nullable && value matches null then .ok .null
      else
        match shape with
        | .anything => anything 1000 value
        | .choice names => choice names value
        | .text =>
            match value.untagged with
            | string s => .ok (.string s)
            | other => refusal other shape.expected
        | .flag =>
            match value.untagged with
            | bool b => .ok (.bool b)
            | other => refusal other shape.expected
        | .list item => do
            return .array (← (← itemsOf shape.expected value).mapM (ofShape fuel item))
        | .map item => do
            let entries ← entriesOf shape.expected value
            return .object (← entries.mapM fun e => do
              return (← textKey Shape.text.expected e.1, ← ofShape fuel item e.2))
        | .strict _ fields | .loose _ fields => do
            ofEntries fuel fields [] (← entriesOf shape.expected value)
        | _ => refusal value shape.expected

def ofEntries : Nat → List (String × Shape) → List (String × Json) → List (Yaml × Yaml) →
    Except String Json
  | 0, _, _, _ => .ok (.object [])
  | _ + 1, fields, given, [] =>
      match Shape.missing? fields (given.map (·.1)) with
      | some name => .error (Shape.missing name)
      | none => .ok (.object given.reverse)
  | fuel + 1, fields, given, (key, value) :: entries => do
      let name ← textKey "field identifier" key
      match fields.lookup name with
      | none => ofEntries (fuel + 1) fields given entries
      | some shape =>
          if (given.lookup name).isSome then throw (Shape.repeated name)
          else
            let value ← ofShape fuel shape value
            ofEntries (fuel + 1) fields ((name, value) :: given) entries

end

def maxShapeDepth : Nat := 32

def shaped (shape : Shape) (value : Yaml) : Except String Json :=
  ofShape maxShapeDepth shape value

end NotebookCheck.Yaml
