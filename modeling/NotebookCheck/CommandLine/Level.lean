namespace NotebookCheck.CommandLine

inductive Opt where
  | help
  | version
  | config
  | logLevel
  | output
  | namespaceName
  | pod
  | docker
  | container
  | packages
  | timeout
  | noDiagnostics
  | runtime
  | suite
  | overallTimeout
  | annotations
  | sectionName
deriving Repr, DecidableEq, Inhabited

inductive Level where
  | root
  | verify
  | wait
  | check
  | resources
  | config
  | validateConfig
  | showConfig
deriving Repr, DecidableEq, Inhabited

namespace Opt

def name : Opt → String
  | help => "help"
  | version => "version"
  | config => "config"
  | logLevel => "log-level"
  | output => "output"
  | namespaceName => "namespace"
  | pod => "pod"
  | docker => "docker"
  | container => "container"
  | packages => "packages"
  | timeout => "timeout"
  | noDiagnostics => "no-diagnostics"
  | runtime => "runtime"
  | suite => "suite"
  | overallTimeout => "overall-timeout"
  | annotations => "annotation"
  | sectionName => "section"

def letter? : Opt → Option Char
  | help => some 'h'
  | version => some 'V'
  | config => some 'c'
  | namespaceName => some 'n'
  | pod => some 'p'
  | annotations => some 'a'
  | _ => none

def isSwitch : Opt → Bool
  | help | version | docker | noDiagnostics => true
  | _ => false

def isRepeatable : Opt → Bool
  | packages | annotations => true
  | _ => false

end Opt

namespace Level

def targetOptions : List Opt := [.namespaceName, .pod, .docker]

def ownOptions : Level → List Opt
  | root => [.version]
  | verify => targetOptions ++ [.container, .packages, .timeout, .noDiagnostics, .runtime]
  | wait => targetOptions ++ [.timeout]
  | check => targetOptions ++ [.container, .suite, .overallTimeout]
  | resources => targetOptions ++ [.annotations]
  | config | validateConfig => []
  | showConfig => [.sectionName]

def options (level : Level) : List Opt :=
  [.help, .config, .logLevel, .output] ++ level.ownOptions

def required : Level → List Opt
  | verify => [.pod, .packages]
  | wait | check => [.pod]
  | resources => [.pod, .annotations]
  | root | config | validateConfig | showConfig => []

def commands : Level → List (String × Level)
  | root =>
      [("verify", verify), ("wait", wait), ("check", check), ("resources", resources),
        ("config", config)]
  | config => [("validate", validateConfig), ("show", showConfig)]
  | verify | wait | check | resources | validateConfig | showConfig => []

def isBranch (level : Level) : Bool := !level.commands.isEmpty

def command? (level : Level) (name : String) : Option Level :=
  level.commands.lookup name

def optionNamed? (level : Level) (name : String) : Option Opt :=
  level.options.find? fun o => o.name = name

def optionLettered? (level : Level) (c : Char) : Option Opt :=
  level.options.find? fun o => o.letter? = some c

end Level

end NotebookCheck.CommandLine
