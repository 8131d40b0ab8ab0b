import NotebookCheck.Configuration.Encoding
import NotebookCheck.Json.Layout
import NotebookCheck.Packages.Encoding
import NotebookCheck.Sidecar
import NotebookCheck.Snippet.Report

namespace NotebookCheck.CommandLine

open Number Text

inductive Style where
  | bold
  | red
  | green
  | boldRed
  | boldGreen
deriving Repr, DecidableEq, Inhabited

namespace Style

def codes : Style → String
  | bold => "1"
  | red => "31"
  | green => "32"
  | boldRed => "1;31"
  | boldGreen => "1;32"

def start (style : Style) : String := "\x1b[" ++ style.codes ++ "m"

def reset : String := "\x1b[0m"

def resume (start : List Char) : List Char → List Char
  | '\x1b' :: '[' :: '0' :: 'm' :: rest => reset.toList ++ start ++ resume start rest
  | c :: rest => c :: resume start rest
  | [] => []

def paint (style : Style) (shown : Bool) (s : String) : String :=
  if shown then
    style.start ++ String.ofList (resume style.start.toList s.toList) ++ reset
  else s

end Style

structure Report where
  text : Bool → String
  json : Json

def line (s : String) : String := s ++ "\n"

def goodLine (styled : Bool) (s : String) : String :=
  line ("  " ++ Style.green.paint styled "✓" ++ " " ++ s)

def badLine (styled : Bool) (name : String) : String :=
  line ("  " ++ Style.red.paint styled "✗" ++ " " ++ Style.red.paint styled name)

def namedSeconds (name : String) (seconds : Binary64) : String :=
  name ++ " (" ++ seconds.hundredths ++ "s)"

structure VerifyReport where
  target : String
  container : String
  results : PackageReport

namespace VerifyReport

def summary (r : VerifyReport) : String := PackageReport.summaryLine r.results

def packageLine (styled : Bool) (name : String) (result : PackageResult) : String :=
  if result.success then goodLine styled (namedSeconds name result.seconds)
  else badLine styled name

def heading (styled : Bool) (target container : String) : String :=
  line ("Package imports in " ++ Style.bold.paint styled target ++ s!" (container: {container})")

def report (r : VerifyReport) : Report where
  text styled :=
    heading styled r.target r.container ++
      join "" (r.results.entries.map fun e => packageLine styled e.1 e.2) ++
      line "" ++ line (Style.bold.paint styled r.summary) ++
      if PackageReport.allSuccessful r.results then ""
      else line "" ++ PackageReport.failureText r.target r.results
  json :=
    .object [("target", .string r.target), ("container", .string r.container),
      ("summary", .string r.summary), ("results", PackageReport.toJson r.results)]

end VerifyReport

structure WaitReport where
  target : String
  ready : Bool
  phase : Option String
  containers : List (String × Bool)
  failure : Option String

namespace WaitReport

def ofSnapshot (s : Snapshot) : WaitReport where
  target := s.name
  ready := true
  phase := some s.phase.name
  containers := s.statuses.map fun status => (status.name, status.ready)
  failure := none

def ofFailure (f : ReadinessFailure) : WaitReport where
  target := f.target
  ready := false
  phase := f.phase.map (·.name)
  containers := []
  failure := some f.message

def readyText (r : WaitReport) (styled : Bool) : String :=
  line (Style.green.paint styled "✓" ++ " " ++ Style.bold.paint styled r.target ++ " is Ready") ++
    (match r.phase with
      | some phase => line ("  Phase: " ++ phase)
      | none => "") ++
    join "" (r.containers.map fun c => line s!"  - {c.1}: ready={c.2}")

def failureText (r : WaitReport) (styled : Bool) : String :=
  line (Style.red.paint styled "✗" ++ " " ++ Style.bold.paint styled r.target ++
      " is not Ready") ++
    match r.failure with
    | some failure => line "" ++ line failure
    | none => ""

def report (r : WaitReport) : Report where
  text styled := if r.ready then r.readyText styled else r.failureText styled
  json :=
    .object ([("target", .string r.target), ("ready", .bool r.ready),
      ("phase", .ofText? r.phase),
      ("containers", .array (r.containers.map fun c =>
        .object [("name", .string c.1), ("ready", .bool c.2)]))] ++
      match r.failure with
      | some failure => [("failure", .string failure)]
      | none => [])

end WaitReport

structure CheckReport where
  target : String
  container : String
  suite : String
  results : SnippetReport
  seconds : Binary64

namespace CheckReport

def checkLines (styled : Bool) (name : String) (outcome : SnippetOutcome) : String :=
  if outcome.success then goodLine styled (namedSeconds name outcome.seconds)
  else badLine styled name ++ join "" ((lines outcome.output).map fun s => line ("      " ++ s))

def criticalLine (styled : Bool) (names : List String) : String :=
  if names.isEmpty then ""
  else line (Style.boldRed.paint styled "Critical modules failed:" ++ " " ++ join ", " names)

def heading (styled : Bool) (suite target container : String) : String :=
  line (s!"Snippet checks [{suite}] in " ++ Style.bold.paint styled target ++
    s!" (container: {container})")

def report (r : CheckReport) : Report where
  text styled :=
    heading styled r.suite r.target r.container ++
      join "" (r.results.entries.map fun e => checkLines styled e.1 e.2) ++
      line "" ++
      line (s!"{(SnippetReport.successful r.results).length}/{r.results.size} checks passed in " ++
        r.seconds.hundredths ++ "s") ++
      criticalLine styled (SnippetReport.criticalFailures r.results)
  json :=
    .object [("target", .string r.target), ("container", .string r.container),
      ("suite", .string r.suite), ("results", SnippetReport.toJson r.results),
      ("critical_failures", .ofTexts (SnippetReport.criticalFailures r.results)),
      ("elapsed_seconds", .real r.seconds)]

end CheckReport

structure ResourcesReport where
  target : String
  checked : Nat
  mismatches : List Sidecar.Mismatch

namespace ResourcesReport

def isMatch (r : ResourcesReport) : Bool := r.mismatches.isEmpty

def mismatchJson (m : Sidecar.Mismatch) : Json :=
  .object [("field", .string m.field.label), ("expected", .string m.expected),
    ("actual", .ofText? m.actual)]

def heading (styled : Bool) (target : String) : String :=
  line ("Auth sidecar resources in " ++ Style.bold.paint styled target ++
    s!" (container: {Sidecar.containerName})")

def report (r : ResourcesReport) : Report where
  text styled :=
    heading styled r.target ++
      if r.isMatch then
        line ("  Result: " ++ Style.boldGreen.paint styled "MATCH" ++
          s!" ({r.checked} values checked)")
      else
        line ("  Result: " ++ Style.boldRed.paint styled "MISMATCH") ++
          join "" (r.mismatches.map fun m => line ("  " ++ m.message))
  json :=
    .object [("target", .string r.target), ("container", .string Sidecar.containerName),
      ("checked", .ofNat r.checked), ("matches", .bool r.isMatch),
      ("mismatches", .array (r.mismatches.map mismatchJson))]

end ResourcesReport

structure ValidationReport where
  path : String
  problem : Option String

namespace ValidationReport

def isValid (r : ValidationReport) : Bool := r.problem.isNone

def report (r : ValidationReport) : Report where
  text styled :=
    line ("Config Validation: " ++ Style.bold.paint styled r.path) ++
      match r.problem with
      | none => line ("  Result: " ++ Style.boldGreen.paint styled "VALID")
      | some problem =>
          line ("  Result: " ++ Style.boldRed.paint styled "INVALID") ++
            line ("  Error: " ++ Style.red.paint styled problem)
  json :=
    .object [("source", .string r.path), ("valid", .bool r.isValid),
      ("errors", .ofTexts r.problem.toList)]

end ValidationReport

structure ConfigReport where
  path : String
  only : Option Configuration.Section
  document : String

namespace ConfigReport

def serializationError (reason : String) : String := "(serialization error: " ++ (reason ++ ")")

def ofConfiguration (w : Configuration.Writer) (path : String)
    (only : Option Configuration.Section) (config : Configuration) : ConfigReport where
  path := path
  only := only
  document :=
    match config.document w only with
    | .ok text => text
    | .error reason => serializationError reason

def header (r : ConfigReport) (styled : Bool) : String :=
  match r.only with
  | none => line ("Configuration (source: " ++ Style.bold.paint styled r.path ++ ")")
  | some s =>
      line ("Configuration " ++ Style.bold.paint styled s!"[{s.name}]" ++
        s!" (source: {r.path})")

def report (r : ConfigReport) : Report where
  text styled := r.header styled ++ line "" ++ r.document
  json :=
    .object (("source", .string r.path) ::
      match r.only with
      | none => []
      | some s => [("section", .string s.name)])

end ConfigReport

end NotebookCheck.CommandLine
