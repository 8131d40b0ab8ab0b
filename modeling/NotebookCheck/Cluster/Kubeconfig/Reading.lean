import NotebookCheck.Cluster.Kubeconfig
import NotebookCheck.File.Tree
import NotebookCheck.Text.Quoted
import NotebookCheck.Text.Unicode
import NotebookCheck.Yaml.Reader
import NotebookCheck.Yaml.Record

namespace NotebookCheck.Cluster

open Text

/-- Why there is no cluster to talk to, as far as files say. -/
inductive KubeconfigError where
  | noPath
  | unread (path reason : String)
  | flawed (flaw : Yaml.Flaw)
  | misshapen (reason : String)
  | unmergeable (reason : Kubeconfig.Mismatch)
  | noCurrentContext
  | noContext (name : String)
  | noCluster (name : String)
  | noUser (name : String)
  | noAddress
  | badAddress (reason : String)
  | noAuthority
  | badAuthority (reason : String)
  | badProxy (reason : String)
deriving Repr, DecidableEq, Inhabited

def KubeconfigError.text : KubeconfigError → String
  | noPath => "failed to find the path of kubeconfig"
  | unread path reason => s!"failed to read kubeconfig from '{quoted path}': {reason}"
  | flawed flaw => "failed to parse kubeconfig YAML: " ++ flaw.message
  | misshapen reason => "the structure of the parsed kubeconfig is invalid: " ++ reason
  | unmergeable reason => reason.text
  | noCurrentContext => "failed to determine current context"
  | noContext name => "failed to load current context: " ++ name
  | noCluster name => "failed to load the cluster of context: " ++ name
  | noUser name => "failed to find named user: " ++ name
  | noAddress => "cluster url is missing on selected cluster"
  | badAddress reason => "failed to parse cluster url: " ++ reason
  | noAuthority => "failed to load certificate authority"
  | badAuthority reason => "failed to parse PEM-encoded certificates: " ++ reason
  | badProxy reason => "failed to parse proxy url: " ++ reason

namespace Kubeconfig

def textOf (bytes : List UInt8) : Except String String :=
  let plain (name : String) (bytes : List UInt8) : Except String String :=
    match Utf8.decode bytes with
    | .ok text => .ok text
    | .error _ => .error name
  let wide (name : String) (text : Option String) : Except String String :=
    match text with
    | some text => .ok text
    | none => .error name
  match bytes with
  | 0xFF :: 0xFE :: rest => wide "Invalid UTF-16 LE" (Utf16.decode? false rest)
  | 0xFE :: 0xFF :: rest => wide "Invalid UTF-16 BE" (Utf16.decode? true rest)
  | 0xEF :: 0xBB :: 0xBF :: rest => plain "Invalid UTF-8 BOM" rest
  | bytes => plain "Invalid UTF-8" bytes

def textOfFile : File → Except String String
  | .missing => .error File.Fault.missing.reason
  | .unreadable reason => .error reason
  | .bytes content => textOf content

def ofDocument (d : Yaml.Document) : Except KubeconfigError Kubeconfig := do
  let value ← d.value.mapError .flawed
  return ofJson (← (Yaml.shaped kubeconfig value).mapError .misshapen)

def relocate (file path : String) : String :=
  let directory := (file.toList.reverse.dropWhile (· ≠ '/')).reverse
  if path.startsWith "/" then path else String.ofList directory ++ path

def ofFile (path : String) (file : File) : Except KubeconfigError Kubeconfig := do
  let text ← (textOfFile file).mapError (.unread path)
  let documents ← (Yaml.documents text).mapM ofDocument
  match documents.map (rebase (relocate path)) with
  | [] => return {}
  | first :: rest => rest.foldlM (fun a b => (merge a b).mapError .unmergeable) first

def ofFiles (paths : List String) (file : String → File) : Except KubeconfigError Kubeconfig :=
  paths.foldlM (fun known path => do
    (merge known (← ofFile path (file path))).mapError .unmergeable) {}

end Kubeconfig

end NotebookCheck.Cluster
