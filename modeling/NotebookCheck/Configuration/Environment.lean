import NotebookCheck.Configuration
import NotebookCheck.Trace

namespace NotebookCheck.Configuration

abbrev Environment : Type := String → Option String

def Field.variableName (f : Field) : String :=
  "WORKBENCH_PROBE_" ++ (f.owner.name ++ "_" ++ f.key).toUpper

def readCount? (bits : Nat) (text : String) : Option Nat :=
  let digits :=
    match text.toList with
    | '+' :: rest => rest
    | cs => cs
  if digits.isEmpty || !digits.all Char.isDigit then none
  else
    let n := digits.foldl (fun n c => n * 10 + (c.toNat - '0'.toNat)) 0
    if n < Nat.pow 2 bits then some n else none

def Kind.read? : Kind → String → Option Value
  | text, s => some (.text s)
  | flag, "true" => some (.flag true)
  | flag, "false" => some (.flag false)
  | flag, _ => none
  | count bits, s => (readCount? bits s).map .count

def Kind.label : Kind → String
  | text => "text"
  | flag => "bool"
  | count bits => s!"u{bits}"

/-- The configuration with the value that the environment has for a field, if it has one. -/
def overrideField (env : Environment) (c : Configuration) (f : Field) : Configuration :=
  match (env f.variableName).bind f.kind.read? with
  | some value => c.set f value
  | none => c

def overridden (env : Environment) (c : Configuration) : Configuration :=
  Field.all.foldl (overrideField env) c

def Field.ignored (f : Field) (value : String) : Event where
  level := .warn
  message := s!"failed to parse {f.kind.label} from env var, ignoring"
  fields := [("env_key", .text f.variableName), ("value", .text value)]

def ignoredVariables (env : Environment) : List Event :=
  Field.all.filterMap fun f =>
    match env f.variableName with
    | none => none
    | some value =>
        match f.kind.read? value with
        | some _ => none
        | none => some (f.ignored value)

/-- The configuration with every value that the environment has; what is left aside is put on
record. -/
def override (env : Environment) (c : Configuration) : Work Configuration := fun _ =>
  ⟨some (c.overridden env), 0, (ignoredVariables env).map .event⟩

end NotebookCheck.Configuration
