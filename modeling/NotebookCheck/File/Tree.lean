import NotebookCheck.Text.Blank
import NotebookCheck.Text.Unicode

namespace NotebookCheck

open Text

inductive File where
  | missing
  | unreadable (reason : String)
  | bytes (content : List UInt8)
deriving Repr, DecidableEq, Inhabited

namespace File

inductive Fault where
  | missing
  | unreadable (reason : String)
deriving Repr, DecidableEq, Inhabited

def Fault.reason : Fault → String
  | missing => "No such file or directory (os error 2)"
  | unreadable reason => reason

def text : File → Except Fault String
  | missing => .error .missing
  | unreadable reason => .error (.unreadable reason)
  | bytes content =>
      match Utf8.decode content with
      | .ok text => .ok text
      | .error _ => .error (.unreadable "stream did not contain valid UTF-8")

inductive Held where
  | content (octets : List UInt8)
  | directory
deriving Repr, DecidableEq, Inhabited

/-- Where a path has led to: into the tree, to a directory above it, or to a place that is named
from the root. -/
inductive Place where
  | within (names : List String)
  | above
  | rooted (names : List String)
deriving Repr, DecidableEq, Inhabited

/-- The names in a directory, each with the names that lead to it. -/
abbrev Tree : Type := List (String × Held)

def notDirectory : Fault := .unreadable "Not a directory (os error 20)"

def isDirectory : Fault := .unreadable "Is a directory (os error 21)"

def nameTooLong : Fault := .unreadable "File name too long (os error 36)"

def badName : Fault := .unreadable "file name contained an unexpected NUL byte"

def maxName : Nat := 255

def maxPath : Nat := 4096

def rootDirectories : List String :=
  ["bin", "dev", "etc", "home", "lib", "opt", "proc", "root", "run", "sbin", "sys", "tmp", "usr",
    "var"]

namespace Tree

def held? (tree : Tree) : Place → Option Held
  | .above => some .directory
  | .rooted [] => some .directory
  | .rooted ["dev", "null"] => some (.content [])
  | .rooted [name] => if rootDirectories.contains name then some .directory else none
  | .rooted _ => none
  | .within [] => some .directory
  | .within names =>
      let path := join "/" names
      match tree.lookup path with
      | some held => some held
      | none => if tree.any fun e => e.1.startsWith (path ++ "/") then some .directory else none

def parent : Place → Place
  | .above => .above
  | .rooted names => .rooted names.dropLast
  | .within [] => .above
  | .within names => .within names.dropLast

def child (place : Place) (name : String) : Option Place :=
  if name = "." then some place
  else if name = ".." then some (parent place)
  else
    match place with
    | .above => none
    | .rooted names => some (.rooted (names ++ [name]))
    | .within names => some (.within (names ++ [name]))

def follow (tree : Tree) (place : Place) : List String → Except Fault Place
  | [] => .ok place
  | name :: names =>
      match tree.held? place with
      | none => .error .missing
      | some (.content _) => .error notDirectory
      | some .directory =>
          if maxName < name.utf8ByteSize then .error nameTooLong
          else
            match child place name with
            | some place => follow tree place names
            | none => .error .missing

/-- The place that a path leads to; a slash at its end asks for a directory. -/
def find (tree : Tree) (path : String) : Except Fault Place :=
  if path.isEmpty then .error .missing
  else if path.toList.contains '\x00' then .error badName
  else if maxPath ≤ path.utf8ByteSize then .error nameTooLong
  else
    let names := (pieces '/' path).filter fun name => !name.isEmpty
    let names := if path.endsWith "/" then names ++ ["."] else names
    tree.follow (if path.startsWith "/" then .rooted [] else .within []) names

def file (tree : Tree) (path : String) : File :=
  match tree.find path with
  | .error .missing => .missing
  | .error (.unreadable reason) => .unreadable reason
  | .ok place =>
      match tree.held? place with
      | none => .missing
      | some .directory => .unreadable isDirectory.reason
      | some (.content octets) => .bytes octets

end Tree

end File

end NotebookCheck
