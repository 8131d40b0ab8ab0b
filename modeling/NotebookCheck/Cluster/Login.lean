import NotebookCheck.Cluster.Kubeconfig
import NotebookCheck.File.Tree
import NotebookCheck.Number.Decimal
import NotebookCheck.Text.Blank
import NotebookCheck.Text.Quoted
import NotebookCheck.Timestamp

/-!
How a user shows a cluster who it is.  A provider of tokens comes first, then a name with a
password, then a token, then a file with one, and at last a program that gives one.
-/

namespace NotebookCheck.Cluster

open Text

inductive LoginFlaw where
  | refused (reason : String)
  | badExpiry (reason : String)
  | unreadToken (path reason : String)
  | noCommand
  | notStarted (reason : String)
deriving Repr, DecidableEq, Inhabited

def LoginFlaw.text : LoginFlaw → String
  | refused reason => "failed exec auth: " ++ reason
  | badExpiry reason => "malformed token expiration date: " ++ reason
  | unreadToken path reason => s!"failed to read token file '{quoted path}': {reason}"
  | noCommand => "command must be specified to use exec authentication plugin"
  | notStarted reason => "unable to run auth exec: " ++ reason

def noPermission : String := "Permission denied (os error 13)"

/-- Why the program of a name cannot be started; one without a slash is none of the files. -/
def startFault (file : String → File) (command : String) : String :=
  if !command.toList.contains '/' then File.Fault.missing.reason
  else
    match file command with
    | .missing => File.Fault.missing.reason
    | .unreadable reason => if reason.startsWith "Is a directory" then noPermission else reason
    | .bytes _ => noPermission

/-- The first year in which a token that ends then is taken to be good still. -/
def goodUntilYear : Nat := 2027

def yearOf (time : String) : Nat :=
  Number.valueOf 10 ((trim time).toList.takeWhile Char.isDigit)

/-- A token of the past is good until its time; nothing is said about one without a time. -/
def hasGoodToken (config : List (String × String)) : Except LoginFlaw Bool :=
  match config.lookup "access-token", config.lookup "expiry" with
  | some _, some time =>
      match Timestamp.check time with
      | .ok () => .ok (goodUntilYear ≤ yearOf time)
      | .error fault => .error (.badExpiry fault.message)
  | _, _ => .ok false

def checkKeeper (config : List (String × String)) : Except LoginFlaw Unit := do
  if (config.lookup "id-token").isSome then return ()
  else if ← hasGoodToken config then return ()
  else
    match config.lookup "cmd-path" with
    | some command =>
        throw (.refused (s!"Executing {command} failed: Os \x7b code: 2, kind: NotFound, " ++
          "message: \"No such file or directory\" \x7d"))
    | none =>
        throw (.refused
          "Enable oauth feature to use Google Application Credentials-based token source")

def TokenProvider.check (p : TokenProvider) : Except LoginFlaw Unit :=
  match p.name with
  | "oidc" =>
      if (p.config.lookup "id-token").isSome then .ok ()
      else .error (.refused "No id-token for oidc Authentication provider")
  | "gcp" => checkKeeper p.config
  | "azure" =>
      .error (.refused ("The azure auth plugin is not supported; " ++
        "use https://github.com/Azure/kubelogin instead"))
  | name => .error (.refused s!"Authentication with provider {name} not supported")

/-- Checks that a user can show who it is, given what stands at the path of a file. -/
def User.check (u : User) (file : String → File) : Except LoginFlaw Unit :=
  match u.provider with
  | some provider => provider.check
  | none =>
      if u.username.isSome && u.password.isSome || u.token.isSome then .ok ()
      else
        match u.tokenFile, u.plugin with
        | some path, _ =>
            match (file path).text with
            | .ok _ => .ok ()
            | .error fault => .error (.unreadToken path fault.reason)
        | none, some plugin =>
            match plugin.command with
            | some command => .error (.notStarted (startFault file command))
            | none => .error .noCommand
        | none, none => .ok ()

def isHeaderChar (c : Char) : Bool := c = '\t' || (' ' ≤ c && c ≠ '\x7f')

/-- The user may be named in a line before a body, and so may those that it acts as. -/
def User.isNameable (u : User) : Bool :=
  (u.actsAs.toList ++ u.actsAsGroups).all fun name => name.toList.all isHeaderChar

end NotebookCheck.Cluster
