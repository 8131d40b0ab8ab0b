import NotebookCheck.Cluster.Shapes.Kubeconfig
import NotebookCheck.Json.Record

/-!
Which clusters there are.  A file lists contexts, clusters and users by name; a context names a
cluster and a user, and one context is current.  Of several files each adds the names that are not
known yet, and the first one that says which context is current is right.
-/

namespace NotebookCheck.Cluster

open Json

structure Context where
  cluster : String
  user : Option String := none
deriving Repr, DecidableEq, Inhabited

/-- How a cluster is reached: the address of its server, what its certificate is to be signed
with, and who is to be asked instead of it. -/
structure Endpoint where
  server : Option String := none
  authority : Option String := none
  authorityData : Option String := none
  proxy : Option String := none
deriving Repr, DecidableEq, Inhabited

structure TokenProvider where
  name : String
  config : List (String × String) := []
deriving Repr, DecidableEq, Inhabited

structure TokenPlugin where
  command : Option String := none
  tellsCluster : Bool := false
deriving Repr, DecidableEq, Inhabited

structure User where
  username : Option String := none
  password : Option String := none
  token : Option String := none
  tokenFile : Option String := none
  certificate : Option String := none
  certificateData : Option String := none
  key : Option String := none
  keyData : Option String := none
  actsAs : Option String := none
  actsAsGroups : List String := []
  provider : Option TokenProvider := none
  plugin : Option TokenPlugin := none
deriving Repr, DecidableEq, Inhabited

/-- A file of contexts, clusters and users by name, any of which may be left open. -/
structure Kubeconfig where
  kind : Option String := none
  apiVersion : Option String := none
  current : Option String := none
  contexts : List (String × Option Context) := []
  clusters : List (String × Option Endpoint) := []
  users : List (String × Option User) := []
deriving Repr, DecidableEq, Inhabited

def Context.ofJson (j : Json) : Context where
  cluster := (j.textIn? "cluster").getD ""
  user := j.textIn? "user"

def Endpoint.ofJson (j : Json) : Endpoint where
  server := j.textIn? "server"
  authority := j.textIn? "certificate-authority"
  authorityData := j.textIn? "certificate-authority-data"
  proxy := j.textIn? "proxy-url"

def TokenProvider.ofJson (j : Json) : TokenProvider where
  name := (j.textIn? "name").getD ""
  config := ((j.given? "config").bind (fields? text?)).getD []

def TokenPlugin.ofJson (j : Json) : TokenPlugin where
  command := j.textIn? "command"
  tellsCluster := ((j.given? "provideClusterInfo").bind bool?).getD false

def User.ofJson (j : Json) : User where
  username := j.textIn? "username"
  password := j.textIn? "password"
  token := j.textIn? "token"
  tokenFile := j.textIn? "tokenFile"
  certificate := j.textIn? "client-certificate"
  certificateData := j.textIn? "client-certificate-data"
  key := j.textIn? "client-key"
  keyData := j.textIn? "client-key-data"
  actsAs := j.textIn? "as"
  actsAsGroups := (j.itemsIn "as-groups").filterMap text?
  provider := (j.given? "auth-provider").map .ofJson
  plugin := (j.given? "exec").map .ofJson

def namedOfJson {α : Type} (name key : String) (read : Json → α) (j : Json) :
    List (String × Option α) :=
  (j.itemsIn name).map fun item =>
    ((item.textIn? "name").getD "", (item.given? key).map read)

namespace Kubeconfig

def ofJson (j : Json) : Kubeconfig where
  kind := j.textIn? "kind"
  apiVersion := j.textIn? "apiVersion"
  current := j.textIn? "current-context"
  contexts := namedOfJson "contexts" "context" .ofJson j
  clusters := namedOfJson "clusters" "cluster" .ofJson j
  users := namedOfJson "users" "user" .ofJson j

inductive Mismatch where
  | kind
  | apiVersion
deriving Repr, DecidableEq, Inhabited

def Mismatch.text : Mismatch → String
  | kind => "kubeconfigs with mismatching kind cannot be merged"
  | apiVersion => "kubeconfigs with mismatching API version cannot be merged"

def differ (a b : Option String) : Bool := a.isSome && b.isSome && a ≠ b

def withNew {α : Type} (known more : List (String × α)) : List (String × α) :=
  known ++ more.filter fun e => !(known.any fun k => k.1 = e.1)

def merge (a b : Kubeconfig) : Except Mismatch Kubeconfig :=
  if differ a.kind b.kind then .error .kind
  else if differ a.apiVersion b.apiVersion then .error .apiVersion
  else
    .ok {
      kind := a.kind <|> b.kind
      apiVersion := a.apiVersion <|> b.apiVersion
      current := a.current <|> b.current
      contexts := withNew a.contexts b.contexts
      clusters := withNew a.clusters b.clusters
      users := withNew a.users b.users }

/-- A file whose relative paths, which start from a directory, are made to start from where the
program runs. -/
def rebase (relocate : String → String) (c : Kubeconfig) : Kubeconfig :=
  { c with
    clusters := c.clusters.map fun e => (e.1, e.2.map fun cluster =>
      { cluster with authority := cluster.authority.map relocate })
    users := c.users.map fun e => (e.1, e.2.map fun user =>
      { user with
        certificate := user.certificate.map relocate
        key := user.key.map relocate
        tokenFile := user.tokenFile.map relocate }) }

end Kubeconfig

end NotebookCheck.Cluster
