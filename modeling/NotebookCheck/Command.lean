import NotebookCheck.Fault

namespace NotebookCheck

open Text

def isNameStart (c : Char) : Bool := c.isAlpha || c = '_'

def isNamePart (c : Char) : Bool := c.isAlphanum || c = '_'

/-- A name that can stand in an import: not empty, of letters, digits and underscores, and not with
a digit at its start. -/
def isPackageName (name : String) : Bool :=
  match name.toList with
  | [] => false
  | c :: rest => isNameStart c && rest.all isNamePart

def checkPackageName (name : String) : Except Fault Unit :=
  if isPackageName name then .ok ()
  else .error (.validation s!"Invalid package name: '{name}'")

def isPlain (c : Char) : Bool :=
  c.isAlphanum || c = '-' || c = '_' || c = '.' || c = '/' || c = '='

def quotedPart (c : Char) : List Char :=
  if c = '\'' then ['\'', '\\', '\'', '\''] else [c]

def quotedWord (word : List Char) : List Char :=
  '\'' :: word.flatMap quotedPart ++ ['\'']

/-- A word, between single quotes if it is empty or has a character that needs them. -/
def shownWord (word : List Char) : List Char :=
  if !word.isEmpty && word.all isPlain then word else quotedWord word

structure Command where
  argv : List String
  display : String
deriving Repr, DecidableEq, Inhabited

namespace Command

def ofWords (argv : List String) : Command where
  argv := argv
  display := join " " (argv.map fun word => String.ofList (shownWord word.toList))

def snippet (runtime code : String) : Command where
  argv := [runtime, "-c", code]
  display := runtime ++ " -c " ++ String.ofList (quotedWord code.toList)

def importCode (package : String) : String := "import " ++ package

def importing (runtime package : String) : Command := snippet runtime (importCode package)

end Command

end NotebookCheck
