import NotebookCheck.Cluster.Shapes.Metadata

namespace NotebookCheck.Cluster

open Shape

def namedExtension : Shape := strict "NamedExtension" [("name", text), ("extension", anything)]

def extensions : Shape := list namedExtension

def preferences : Shape :=
  optionals "Preferences" [("colors", flag), ("extensions", extensions)]

def clusterEntry : Shape :=
  optionals "Cluster"
    [("server", text), ("insecure-skip-tls-verify", flag), ("certificate-authority", text),
      ("certificate-authority-data", text), ("proxy-url", text), ("disable-compression", flag),
      ("tls-server-name", text), ("extensions", extensions)]

def authProvider : Shape :=
  strict "AuthProviderConfig" [("name", text), ("config", defaulted (map text))]

def interactiveModes : List String := ["Never", "IfAvailable", "Always"]

def execPlugin : Shape :=
  strict "ExecConfig"
    [("apiVersion", Shape.optional text), ("command", Shape.optional text),
      ("args", Shape.optional texts), ("env", Shape.optional (list (map text))),
      ("interactiveMode", Shape.optional (choice interactiveModes)),
      ("provideClusterInfo", defaulted flag)]

def userEntry : Shape :=
  optionals "AuthInfo"
    [("username", text), ("password", text), ("token", text), ("tokenFile", text),
      ("client-certificate", text), ("client-certificate-data", text), ("client-key", text),
      ("client-key-data", text), ("as", text), ("as-groups", texts),
      ("auth-provider", authProvider), ("exec", execPlugin)]

def contextEntry : Shape :=
  strict "Context"
    [("cluster", text), ("user", Shape.optional text), ("namespace", Shape.optional text),
      ("extensions", Shape.optional extensions)]

def named (kind key : String) (shape : Shape) : Shape :=
  strict kind [("name", text), (key, Shape.optional shape)]

def kubeconfig : Shape :=
  strict "Kubeconfig"
    [("preferences", Shape.optional preferences),
      ("clusters", defaulted (list (named "NamedCluster" "cluster" clusterEntry))),
      ("users", defaulted (list (named "NamedAuthInfo" "user" userEntry))),
      ("contexts", defaulted (list (named "NamedContext" "context" contextEntry))),
      ("current-context", Shape.optional text), ("extensions", Shape.optional extensions),
      ("kind", Shape.optional text), ("apiVersion", Shape.optional text)]

end NotebookCheck.Cluster
