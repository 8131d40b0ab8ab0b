/-!
Tables of named values, and the rules by which the statements of a document fill them.  A table is
opened once: by its header, by the first dotted key that leads through it, or by braces.  A table
that only lies on the way to another header is implied, and may still get a header of its own.
-/

namespace NotebookCheck.Toml

inductive Origin where
  | header
  | implied
  | dotted
  | braces
deriving Repr, DecidableEq, Inhabited

/-- A value of a document.  Numbers with a point or an exponent, and times, are kept as written.
Tables that are listed one by one under headers of their own have a last one, which later headers
extend. -/
inductive Node where
  | text (s : String)
  | whole (n : Int)
  | flag (b : Bool)
  | real (literal : String)
  | time (literal : String)
  | array (items : List Node)
  | table (origin : Origin) (entries : List (String × Node))
  | listed (earlier : List (List (String × Node))) (latest : List (String × Node))
deriving Inhabited

/-- The entries of a table in the order of their statements. -/
abbrev Entries : Type := List (String × Node)

structure Path where
  through : List String
  name : String
deriving Repr, DecidableEq, Inhabited

namespace Entries

def put (name : String) (node : Node) : Entries → Entries
  | [] => [(name, node)]
  | (n, v) :: rest => if n = name then (n, node) :: rest else (n, v) :: put name node rest

/-- Changes the table that names lead to; tables that are missing on the way come about with the
given origin.  The way leads through the last of listed tables, and never into braces; a dotted key
does not lead through a table that has a header. -/
def change (origin : Origin) (f : Origin → Entries → Option Entries) :
    List String → Origin → Entries → Option Entries
  | [], own, entries => f own entries
  | name :: names, _, entries =>
      match entries.lookup name with
      | none => do
          let inner ← change origin f names origin []
          return put name (.table origin inner) entries
      | some (.table own inner) =>
          if own = .braces || (origin = .dotted && own = .header) then none
          else do
            let inner ← change origin f names own inner
            return put name (.table own inner) entries
      | some (.listed earlier latest) =>
          if origin = .dotted then none
          else do
            let latest ← change origin f names .header latest
            return put name (.listed earlier latest) entries
      | some _ => none

/-- The entries with a new value at the end of a key.  The tables on the way of a dotted key belong
to dotted keys alone. -/
def assign (path : Path) (node : Node) (own : Origin) (entries : Entries) : Option Entries :=
  change .dotted
    (fun origin entries =>
      if !path.through.isEmpty && origin ≠ .dotted then none
      else if (entries.lookup path.name).isSome then none
      else some (entries ++ [(path.name, node)]))
    path.through own entries

def openTable (path : Path) (entries : Entries) : Option Entries :=
  change .implied
    (fun _ entries =>
      match entries.lookup path.name with
      | none => some (entries ++ [(path.name, .table .header [])])
      | some (.table .implied inner) => some (put path.name (.table .header inner) entries)
      | some _ => none)
    path.through .header entries

def openListed (path : Path) (entries : Entries) : Option Entries :=
  change .implied
    (fun _ entries =>
      match entries.lookup path.name with
      | none => some (entries ++ [(path.name, .listed [] [])])
      | some (.listed earlier latest) =>
          some (put path.name (.listed (earlier ++ [latest]) []) entries)
      | some _ => none)
    path.through .header entries

def assignUnder (header : List String) (path : Path) (node : Node) (entries : Entries) :
    Option Entries :=
  change .implied (assign path node) header .header entries

end Entries

end NotebookCheck.Toml
