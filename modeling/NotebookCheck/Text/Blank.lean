namespace NotebookCheck.Text

def isBlank (c : Char) : Bool :=
  let n := c.toNat
  (9 ≤ n && n ≤ 13) || n = 0x20 || n = 0x85 || n = 0xA0 || n = 0x1680 ||
    (0x2000 ≤ n && n ≤ 0x200A) || n = 0x2028 || n = 0x2029 || n = 0x202F ||
    n = 0x205F || n = 0x3000

def dropBlankEnd (cs : List Char) : List Char :=
  (cs.reverse.dropWhile isBlank).reverse

def trim (s : String) : String :=
  String.ofList (dropBlankEnd (s.toList.dropWhile isBlank))

def isAllBlank (s : String) : Bool :=
  s.toList.all isBlank

def hasBlank (s : String) : Bool :=
  s.toList.any isBlank

def splitAtChar (sep : Char) : List Char → List (List Char)
  | [] => [[]]
  | c :: rest =>
      if c = sep then [] :: splitAtChar sep rest
      else
        match splitAtChar sep rest with
        | [] => [[c]]
        | piece :: pieces => (c :: piece) :: pieces

def dropReturn (line : List Char) : List Char :=
  if line.getLast? = some '\r' then line.dropLast else line

/-- The pieces of a text between line feeds, made into lines: every piece but the last had a line
feed after it, and the last piece is a line only if it is not empty. -/
def linesOfPieces : List (List Char) → List (List Char)
  | [] => []
  | [last] => if last.isEmpty then [] else [last]
  | piece :: pieces => dropReturn piece :: linesOfPieces pieces

/-- The lines of a text.  A line ends at a line feed, which is not part of it, nor is a carriage
return right before that; a text that ends in a line feed has no empty line after it. -/
def lines (s : String) : List String :=
  (linesOfPieces (splitAtChar '\n' s.toList)).map String.ofList

/-- The pieces of a text between line feeds, the last one included even when it is empty. -/
def pieces (sep : Char) (s : String) : List String :=
  (splitAtChar sep s.toList).map String.ofList

def join (sep : String) (parts : List String) : String :=
  sep.intercalate parts

end NotebookCheck.Text
