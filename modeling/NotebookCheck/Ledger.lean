/-!
Maps from names to values in the order in which the names first came.  Writing a value at a known
name replaces the value and leaves the name where it is.
-/

namespace NotebookCheck

structure Ledger (α : Type) where
  entries : List (String × α)
deriving DecidableEq, Inhabited

namespace Ledger

variable {α : Type}

def empty : Ledger α := ⟨[]⟩

def insertEntry (name : String) (value : α) : List (String × α) → List (String × α)
  | [] => [(name, value)]
  | (n, v) :: rest =>
      if n = name then (n, value) :: rest else (n, v) :: insertEntry name value rest

def insert (name : String) (value : α) (ledger : Ledger α) : Ledger α :=
  ⟨insertEntry name value ledger.entries⟩

def get? (name : String) (ledger : Ledger α) : Option α :=
  ledger.entries.lookup name

def names (ledger : Ledger α) : List String :=
  ledger.entries.map (·.1)

def values (ledger : Ledger α) : List α :=
  ledger.entries.map (·.2)

def namesWhere (p : α → Bool) (ledger : Ledger α) : List String :=
  (ledger.entries.filter fun e => p e.2).map (·.1)

def size (ledger : Ledger α) : Nat := ledger.entries.length

def isEmpty (ledger : Ledger α) : Bool := ledger.entries.isEmpty

end Ledger

end NotebookCheck
