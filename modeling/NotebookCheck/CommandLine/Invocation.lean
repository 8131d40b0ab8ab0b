import NotebookCheck.CommandLine.Usage
import NotebookCheck.Text.Blank

namespace NotebookCheck.CommandLine

structure Place where
  namespaceName : Option String
  pod : String
  docker : Bool
deriving Repr, DecidableEq, Inhabited

structure VerifyOptions where
  place : Place
  container : Option String
  packages : List String
  timeout : Option Nat
  noDiagnostics : Bool
  runtime : Option String
deriving Repr, DecidableEq, Inhabited

structure WaitOptions where
  place : Place
  timeout : Option Nat
deriving Repr, DecidableEq, Inhabited

structure CheckOptions where
  place : Place
  container : Option String
  suite : String
  overallTimeout : Option Nat
deriving Repr, DecidableEq, Inhabited

structure ResourcesOptions where
  place : Place
  annotations : List String
deriving Repr, DecidableEq, Inhabited

inductive Action where
  | verify (options : VerifyOptions)
  | wait (options : WaitOptions)
  | check (options : CheckOptions)
  | resources (options : ResourcesOptions)
  | validateConfig
  | showConfig (sectionName : Option String)
deriving Repr, DecidableEq, Inhabited

structure Invocation where
  configPath : String
  logLevel : Option String
  format : Format
  action : Action
deriving Repr, DecidableEq, Inhabited

namespace Given

def valuesOf (g : Given) (o : Opt) : List String :=
  (g.values.filter fun v => v.1 = o).map (·.2)

def value? (g : Given) (o : Opt) : Option String := (g.valuesOf o).head?

def seconds? (g : Given) (o : Opt) : Option Nat := (g.value? o).bind CommandLine.seconds?

def place (g : Given) : Place where
  namespaceName := g.value? .namespaceName
  pod := (g.value? .pod).getD ""
  docker := g.has .docker

def action (g : Given) : Level → Action
  | .verify =>
      .verify {
        place := g.place
        container := g.value? .container
        packages := (g.valuesOf .packages).flatMap (Text.pieces ',')
        timeout := g.seconds? .timeout
        noDiagnostics := g.has .noDiagnostics
        runtime := g.value? .runtime }
  | .wait => .wait { place := g.place, timeout := g.seconds? .timeout }
  | .check =>
      .check {
        place := g.place
        container := g.value? .container
        suite := (g.value? .suite).getD "standard"
        overallTimeout := g.seconds? .overallTimeout }
  | .resources => .resources { place := g.place, annotations := g.valuesOf .annotations }
  | .showConfig => .showConfig (g.value? .sectionName)
  | .root | .config | .validateConfig => .validateConfig

end Given

/-- The value of an option that may stand at every level: that of the last level which gives it. -/
def globalValue? (levels : List (Level × Given)) (o : Opt) : Option String :=
  levels.reverse.findSome? fun l => l.2.value? o

def defaultConfigPath : String := "workbench-probe.toml"

def Invocation.ofWords (words : List String) : Except UsageError Invocation := do
  let levels ← readWords words
  let (level, g) := levels.getLast?.getD (.root, {})
  return {
    configPath := (globalValue? levels .config).getD defaultConfigPath
    logLevel := globalValue? levels .logLevel
    format := ((globalValue? levels .output).bind Format.ofName?).getD .text
    action := g.action level }

end NotebookCheck.CommandLine
