import NotebookCheck.Cluster.Certificate
import NotebookCheck.Cluster.Kubeconfig.Reading
import NotebookCheck.Cluster.Login
import NotebookCheck.Cluster.PodTarget
import NotebookCheck.Http.Address

namespace NotebookCheck.Cluster

open Http Text

/-- A cluster and a user that were chosen, with the certificates that the cluster's own are to be
signed with, and who is to be asked instead of it. -/
structure Choice where
  server : Address
  user : User := {}
  authority : Option (List (List UInt8)) := none
  proxy : Option Address := none
deriving Inhabited

inductive ClientError where
  | noProxySupport (proxy : Address) (feature : String)
  | unknownProxy (proxy : Address)
  | login (flaw : LoginFlaw)
  | badRoot
  | identity (flaw : Certificate.IdentityFlaw)
  | badHeader
deriving Repr, DecidableEq, Inhabited

def ClientError.text : ClientError → String
  | noProxySupport proxy feature =>
      s!"configured proxy {proxy.text} requires the disabled feature {quoted feature}"
  | unknownProxy proxy => s!"configured proxy {proxy.text} uses an unsupported protocol"
  | login flaw => "auth error: " ++ flaw.text
  | badRoot =>
      "rustls tls error: failed to add a root certificate: invalid peer certificate: BadEncoding"
  | identity flaw => "rustls tls error: " ++ flaw.text
  | badHeader => "HttpError: failed to parse header value"

def bytesAt? (file : String → File) (data path : Option String) : Option (List UInt8) :=
  match data, path with
  | some data, _ => (Base64.decode (Utf8.encode data)).toOption
  | none, some path =>
      match file path with
      | .bytes content => some content
      | _ => none
  | none, none => none

def withLineEnd (bytes : List UInt8) : List UInt8 :=
  if bytes.getLast? = some 0x0A then bytes else bytes ++ [0x0A]

/-- The bytes of what a cluster's certificate is to be signed with, if anything is said. -/
def Endpoint.authorityBytes (e : Endpoint) (file : String → File) :
    Except KubeconfigError (Option (List UInt8)) :=
  if e.authority.isNone && e.authorityData.isNone then .ok none
  else
    match bytesAt? file e.authorityData e.authority with
    | some bytes => .ok (some (withLineEnd bytes))
    | none => .error .noAuthority

def Endpoint.certificates (e : Endpoint) (file : String → File) :
    Except KubeconfigError (Option (List (List UInt8))) := do
  match ← e.authorityBytes file with
  | none => return none
  | some bytes =>
      let sections ← (Pem.read bytes).mapError fun fault => .badAuthority fault.message
      return some ((sections.filter fun s => s.label = Certificate.label).map (·.content))

def thing? {α : Type} (name : String) (things : List (String × Option α)) : Option α :=
  (things.lookup name).join

/-- The user of a context; a context without a user has one of whom nothing is said. -/
def Kubeconfig.userOf (config : Kubeconfig) (context : Context) : Except KubeconfigError User :=
  match context.user with
  | none => .ok {}
  | some name =>
      match config.users.lookup name with
      | some user => .ok (user.getD {})
      | none => .error (.noUser name)

def Kubeconfig.choose (config : Kubeconfig) (file : String → File) (context : Option String) :
    Except KubeconfigError Choice := do
  let name ← match context <|> config.current with
    | some name => pure name
    | none => throw .noCurrentContext
  let context ← match thing? name config.contexts with
    | some context => pure context
    | none => throw (.noContext name)
  let endpoint ← match thing? context.cluster config.clusters with
    | some endpoint => pure endpoint
    | none => throw (.noCluster context.cluster)
  let user ← config.userOf context
  if user.plugin.any (·.tellsCluster) then
    let _ ← endpoint.authorityBytes file
  let server ← match endpoint.server with
    | some server => (Address.read server).mapError fun flaw => .badAddress flaw.message
    | none => throw .noAddress
  let authority ← endpoint.certificates file
  let proxy ← match endpoint.proxy.filter fun proxy => !proxy.isEmpty with
    | some proxy => do
        let address ← (Address.read proxy).mapError fun flaw => .badProxy flaw.message
        pure (some address)
    | none => pure none
  return { server, user, authority, proxy }

def proxyFeatures : List (String × String) :=
  [("socks5", "kube/socks5"), ("http", "kube/http-proxy")]

def checkProxy : Option Address → Except ClientError Unit
  | none => .ok ()
  | some proxy =>
      match proxy.scheme.bind fun (scheme : String) => proxyFeatures.lookup scheme with
      | some feature => .error (.noProxySupport proxy feature)
      | none => .error (.unknownProxy proxy)

def User.identity? (u : User) (file : String → File) : Option (List UInt8) := do
  let certificate ← bytesAt? file u.certificateData u.certificate
  let key ← bytesAt? file u.keyData u.key
  return withLineEnd key ++ withLineEnd certificate

def Choice.check (c : Choice) (file : String → File) : Except ClientError Unit := do
  checkProxy c.proxy
  (c.user.check file).mapError .login
  if !((c.authority.getD []).all Certificate.isCertificate) then throw .badRoot
  match c.user.identity? file with
  | some bytes => (Certificate.checkIdentity bytes).mapError .identity
  | none => pure ()
  if c.user.isNameable then return () else throw .badHeader

/-- Why no cluster could be found, where neither a file nor the pod that the program runs in names
one. -/
def notInferred (e : KubeconfigError) : String :=
  "failed to infer config: in-cluster: (failed to read an incluster environment variable: " ++
    s!"environment variable not found), kubeconfig: ({e.text})"

def choiceFault (context : Option String) (e : KubeconfigError) : Fault :=
  .connection (match context with
    | some context => s!"failed to load kubeconfig context '{context}': {e.text}"
    | none => s!"failed to infer Kubernetes config: {notInferred e}")

def clientFault (e : ClientError) : Fault :=
  .connection ("failed to create Kubernetes client: " ++ e.text)

def pathsIn (value : String) : List String :=
  (pieces ':' value).filter fun path => !path.isEmpty

def kubeconfigAt (paths : Option String) (file : String → File) :
    Except KubeconfigError Kubeconfig :=
  match pathsIn (paths.getD "") with
  | [] => .error .noPath
  | paths => Kubeconfig.ofFiles paths file

/-- A pod of the cluster that a context names, given the paths of the files about clusters and what
stands at a path. -/
def connect (serverAt : String → Server) (paths : Option String) (file : String → File)
    (context : Option String) (namespaceName name : String) : Except Fault Target :=
  let chosen : Except KubeconfigError Choice := do
    (← kubeconfigAt paths file).choose file context
  match chosen with
  | .error e => .error (choiceFault context e)
  | .ok choice =>
      match choice.check file with
      | .error e => .error (clientFault e)
      | .ok () => .ok (target (serverAt choice.server.text) namespaceName name)

end NotebookCheck.Cluster
