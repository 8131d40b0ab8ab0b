import NotebookCheck.Text.Blank
import NotebookCheck.Text.Form

namespace NotebookCheck.Http

open Text

def isPassedOver (c : Char) : Bool := c = '\t' || c = '\n' || c = '\r'

def endsPath (c : Char) : Bool := c = '?' || c = '#'

def withDots : List Char → List Char
  | '%' :: '2' :: 'e' :: rest => '.' :: withDots rest
  | '%' :: '2' :: 'E' :: rest => '.' :: withDots rest
  | c :: rest => c :: withDots rest
  | [] => []

def isHere (name : List Char) : Bool := withDots name = ['.']

def isBack (name : List Char) : Bool := withDots name = ['.', '.']

def isDrive : List Char → Bool
  | [c, mark] => c.isAlpha && (mark = ':' || mark = '|')
  | _ => false

def back (names : List (List Char)) : List (List Char) :=
  match names.getLast? with
  | some name => if isDrive name then names else names.dropLast
  | none => []

/-- The names that a path goes through, after those that it has gone through; one that ends in a
dot or two ends in an empty name. -/
def walk (done : List (List Char)) : List (List Char) → List (List Char)
  | [] => done
  | [name] =>
      if isBack name then back done ++ [[]]
      else if isHere name then done ++ [[]]
      else done ++ [name]
  | name :: names =>
      if isBack name then walk (back done) names
      else if isHere name then walk done names
      else walk (done ++ [name]) names

/-- A path as it is sent, given the names in it before they are walked through. -/
def walkedPath (path : String) : String :=
  let cs := (path.toList.filter fun c => !isPassedOver c).takeWhile fun c => !endsPath c
  let names := walk [] (splitAtChar '/' (cs.drop 1))
  join "" (names.map fun name => "/" ++ percentEncoded (String.ofList name))

end NotebookCheck.Http
