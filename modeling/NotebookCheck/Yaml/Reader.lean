import NotebookCheck.Yaml.Document
import NotebookCheck.Yaml.Scalar

namespace NotebookCheck.Yaml

inductive Way where
  | root
  | item (way : Way) (index : Nat)
  | entry (way : Way) (key : String)
  | strange (way : Way)
  | behindAlias (way : Way)
deriving Repr, DecidableEq, Inhabited

namespace Way

mutual

def text : Way → String
  | root => rootPlace
  | item way index => s!"{way.text}[{index}]"
  | entry way key => way.front ++ key
  | strange way => way.front ++ "?"
  | behindAlias way => way.text

def front : Way → String
  | root => ""
  | item way index => s!"{way.text}[{index}]."
  | entry way key => way.front ++ key ++ "."
  | strange way => way.front ++ "?."
  | behindAlias way => way.text ++ "."

end

end Way

/-- How far a document is read, and how many aliases have been followed. -/
structure Progress where
  position : Nat := 0
  jumps : Nat := 0
deriving Repr, DecidableEq, Inhabited

abbrev Reading (α : Type) : Type := StateT Progress (Except Flaw) α

namespace Document

variable (d : Document)

def maxDepth : Nat := 128

def peek : Reading (Part × Mark) := do
  match d.parts[(← get).position]? with
  | some part => return part
  | none => throw (d.flaw.getD { complaint := .endOfStream })

def step : Reading Unit := modify fun p => { p with position := p.position + 1 }

def refuse {α : Type} (way : Way) (mark : Mark) (reason : String) : Reading α :=
  throw { complaint := .misfit way.text reason, mark }

/-- Goes to the node with the number of an anchor, and gives back where it came from. -/
def jump (number : Nat) : Reading Nat := do
  let p ← get
  if 100 * d.parts.size < p.jumps + 1 then throw { complaint := .tooOften }
  else
    set ({ position := (d.anchored.lookup number).getD 0, jumps := p.jumps + 1 } : Progress)
    return p.position

def ownTag? (tag : Option String) : Option String :=
  tag.bind fun tag => if tag.startsWith "!" then some (bareName tag) else none

def scalarValue (tag : Option String) (tagTaken : Bool) (text : String) (plain : Bool) :
    Except String Yaml :=
  match tag, tagTaken with
  | some tag, false => Scalar.ofTag tag text
  | _, _ => if plain then Scalar.plain text else .ok (.string text)

def valueWay (way : Way) : Part → Way
  | .scalar _ text _ => .entry way text
  | _ => .strange way

mutual

/-- Reads a value, whose tag may have been taken account of already; the first argument bounds the
number of parts on the way, the second one how deep the value is. -/
def readValue : Nat → Nat → Way → Bool → Reading Yaml
  | 0, _, _, _ => throw { complaint := .tooDeep }
  | fuel + 1, depth, way, tagTaken => do
      let (part, mark) ← d.peek
      let tag : Option String :=
        match part with
        | .scalar tag _ _ | .sequenceStart tag | .mappingStart tag => tag
        | _ => none
      match ownTag? tag, tagTaken with
      | some name, false => return .tagged name (← readValue fuel depth way true)
      | _, _ => do
          step
          match part with
          | .aliasOf number => do
              let back ← d.jump number
              let value ← readValue fuel depth (.behindAlias way) false
              modify fun p => { p with position := back }
              return value
          | .scalar tag text plain =>
              match scalarValue tag tagTaken text plain with
              | .ok value => return value
              | .error reason => refuse way mark reason
          | .sequenceStart _ =>
              match depth with
              | 0 => throw { complaint := .tooDeep, mark }
              | depth + 1 => return .sequence (← readItems fuel depth way 0)
          | .mappingStart _ =>
              match depth with
              | 0 => throw { complaint := .tooDeep, mark }
              | depth + 1 => return .mapping (← readEntries fuel depth way mark [])
          | .void | .sequenceEnd | .mappingEnd => return .null

def readItems : Nat → Nat → Way → Nat → Reading (List Yaml)
  | 0, _, _, _ => throw { complaint := .tooDeep }
  | fuel + 1, depth, way, index => do
      match (← d.peek).1 with
      | .sequenceEnd => do
          step
          return []
      | _ => do
          let value ← readValue fuel depth (.item way index) false
          return value :: (← readItems fuel depth way (index + 1))

/-- Reads the entries of a mapping after the given ones; every key has to be a new one. -/
def readEntries : Nat → Nat → Way → Mark → List (Yaml × Yaml) → Reading (List (Yaml × Yaml))
  | 0, _, _, _, _ => throw { complaint := .tooDeep }
  | fuel + 1, depth, way, mark, given => do
      let part := (← d.peek).1
      match part with
      | .mappingEnd => do
          step
          return given.reverse
      | _ => do
          let key ← readValue fuel depth way false
          match given.find? fun e => same (2 * maxDepth + 8) e.1 key with
          | some e => refuse way mark (repeatedKey e.1)
          | none => do
              let value ← readValue fuel depth (valueWay way part) false
              readEntries fuel depth way mark ((key, value) :: given)

end

def value : Except Flaw Yaml := do
  let fuel := 3 * (maxDepth + 2) * (d.parts.size + 4)
  let (value, _) ← (d.readValue fuel maxDepth .root false).run {}
  match d.flaw with
  | some flaw => throw flaw
  | none => return value

end Document

end NotebookCheck.Yaml
