import NotebookCheck.Yaml.Token.Lexer

/-!
The structure of a YAML text, as a sequence of events: scalars, and where lists, mappings and
documents begin and end.  What may come next depends on what is open; where nothing is written, an
empty scalar comes.
-/

namespace NotebookCheck.Yaml

/-- What is said about a node before it: the name that it gets, and its tag. -/
structure Properties where
  anchor : Option String := none
  tag : Option String := none
deriving Repr, DecidableEq, Inhabited

inductive Event where
  | streamEnd
  | documentStart
  | documentEnd
  | aliasOf (name : String)
  | scalar (properties : Properties) (text : String) (plain : Bool)
  | sequenceStart (properties : Properties)
  | sequenceEnd
  | mappingStart (properties : Properties)
  | mappingEnd
deriving Repr, DecidableEq, Inhabited

namespace Event

def empty : Event := scalar {} "" true

end Event

inductive Expected where
  | firstDocument
  | document
  | documentContent
  | documentEnd
  | blockNode
  | firstItem
  | item
  | flushItem
  | firstKey
  | key
  | value
  | firstFlowItem
  | flowItem
  | pairKey
  | pairValue
  | pairEnd
  | firstFlowKey
  | flowKey
  | flowValue
  | emptyFlowValue
  | nothing
deriving Repr, DecidableEq, Inhabited

/-- How far the structure of a text is known: the words to come, what has to come next and after
what is open, where the open lists and mappings began, and what the handles of tags stand for. -/
structure Outline where
  lexer : Lexer
  expected : Expected := .firstDocument
  after : List Expected := []
  starts : List Mark := []
  handles : List (String × String) := []
deriving Repr, DecidableEq, Inhabited

abbrev Step (α : Type) : Type := StateT Outline (Except Flaw) α

abbrev Placed : Type := Event × Mark

namespace Step

def peek : Step Token := do
  let (token, lexer) ← (← get).lexer.peek
  modify fun o => { o with lexer }
  return token

def drop : Step Unit := modify fun o => { o with lexer := o.lexer.drop }

def following : Step Token := do
  drop
  peek

def expect (expected : Expected) : Step Unit := modify fun o => { o with expected }

def expectAfter (expected : Expected) : Step Unit :=
  modify fun o => { o with after := expected :: o.after }

def resume : Step Unit :=
  modify fun o => { o with expected := o.after.headD .nothing, after := o.after.drop 1 }

/-- Notes where a list or a mapping begins, and goes past the word that begins it. -/
def enter : Step Unit := do
  let token ← peek
  modify fun o => { o with starts := token.mark :: o.starts }
  drop

def leave (event : Event) (mark : Mark) : Step Placed := do
  resume
  modify fun o => { o with starts := o.starts.drop 1 }
  drop
  return (event, mark)

def fail {α : Type} (complaint : Complaint) (mark : Mark)
    (activity : Option (Activity × Mark) := none) : Step α :=
  fun _ => .error { complaint, mark, activity }

def failWithin {α : Type} (activity : Activity) (complaint : Complaint) (mark : Mark) : Step α :=
  do fail complaint mark (some (activity, (← get).starts.headD {}))

def nothing (expected : Expected) (mark : Mark) : Step Placed := do
  expect expected
  return (.empty, mark)

def meant (start : Mark) (handle suffix : String) (mark : Mark) : Step String := do
  if handle.isEmpty then return suffix
  else
    match (← get).handles.lookup handle with
    | some beginning => return beginning ++ suffix
    | none => fail .unknownHandle mark (some (.node, start))

/-- What is said about a node: an anchor and a tag, in any order, each at most once. -/
def properties (start : Mark) : Step Properties := do
  let token ← peek
  match token.word with
  | .anchor name => do
      let token ← following
      match token.word with
      | .tag handle suffix => do
          let _ ← following
          return { anchor := some name, tag := some (← meant start handle suffix token.mark) }
      | _ => return { anchor := some name }
  | .tag handle suffix => do
      let next ← following
      match next.word with
      | .anchor name => do
          let _ ← following
          return { anchor := some name, tag := some (← meant start handle suffix token.mark) }
      | _ => return { tag := some (← meant start handle suffix token.mark) }
  | _ => return {}

def bareTag : String := "!"

/-- A node, where a block may begin or not, and where the items of a list need not be indented or
have to be. -/
def node (block flush : Bool) : Step Placed := do
  let start := (← peek).mark
  match (← peek).word with
  | .aliasOf name => do
      resume
      drop
      return (.aliasOf name, start)
  | _ => do
      let p ← properties start
      let token ← peek
      match token.word, block with
      | .entry, _ =>
          if flush then do
            expect .flushItem
            return (.sequenceStart p, start)
          else absent p start token.mark
      | .scalar text plain, _ => do
          resume
          drop
          let tag := p.tag.filter fun tag => tag ≠ bareTag
          return (.scalar { p with tag } text plain, start)
      | .flowSequence, _ => do
          expect .firstFlowItem
          return (.sequenceStart p, start)
      | .flowMapping, _ => do
          expect .firstFlowKey
          return (.mappingStart p, start)
      | .blockSequence, true => do
          expect .firstItem
          return (.sequenceStart p, start)
      | .blockMapping, true => do
          expect .firstKey
          return (.mappingStart p, start)
      | _, _ => absent p start token.mark
where
  /-- A node of which nothing is written but what is said about it. -/
  absent (p : Properties) (start mark : Mark) : Step Placed := do
    if p = {} then
      fail .noContent mark (some (if block then .blockNode else .flowNode, start))
    else
      resume
      return (.scalar p "" true, start)

def nodeUnless (stop : Word → Bool) (flush : Bool) (expected : Expected) (mark : Mark) :
    Step Placed := do
  if stop (← peek).word then nothing expected mark
  else
    expectAfter expected
    node true flush

/-- A node between brackets unless one of the given words comes; then nothing is written here. -/
def flowNodeUnless (stop : Word → Bool) (expected : Expected) : Step Placed := do
  let token ← peek
  if stop token.word then nothing expected token.mark
  else
    expectAfter expected
    node false false

def commonHandles : List (String × String) := [("!", "!"), ("!!", "tag:yaml.org,2002:")]

def knownVersions : List (Nat × Nat) := [(1, 1), (1, 2)]

def directives : Nat → Bool → Step Unit
  | 0, _ => pure ()
  | fuel + 1, versioned => do
      let token ← peek
      match token.word with
      | .version major minor => do
          if versioned then fail .repeatedVersion token.mark
          else if !knownVersions.contains (major, minor) then fail .otherVersion token.mark
          else
            drop
            directives fuel true
      | .handle name beginning => do
          if ((← get).handles.lookup name).isSome then fail .repeatedHandle token.mark
          else
            modify fun o => { o with handles := o.handles ++ [(name, beginning)] }
            drop
            directives fuel versioned
      | _ => modify fun o => { o with handles := o.handles ++ commonHandles }

def skipEnds : Nat → Step Unit
  | 0 => pure ()
  | fuel + 1 => do
      if (← peek).word = .documentEnd then
        drop
        skipEnds fuel

def wordBound : Step Nat := do
  let o ← get
  return 4 * (o.lexer.cursor.rest.length + o.lexer.waiting.length) + 8

def beginsDocument : Word → Bool
  | .version .. | .handle .. | .documentStart => true
  | _ => false

def document (first : Bool) : Step Placed := do
  if !first then skipEnds (← wordBound)
  let token ← peek
  if token.word = .streamEnd then
    expect .nothing
    return (.streamEnd, token.mark)
  else if first && !beginsDocument token.word then
    modify fun o => { o with handles := commonHandles }
    expectAfter .documentEnd
    expect .blockNode
    return (.documentStart, token.mark)
  else
    directives (← wordBound) false
    let next ← peek
    if next.word ≠ .documentStart then fail .noDocumentStart next.mark
    else
      expectAfter .documentEnd
      expect .documentContent
      drop
      return (.documentStart, token.mark)

def documentContent : Step Placed := do
  let token ← peek
  if beginsDocument token.word || token.word = .documentEnd || token.word = .streamEnd then
    resume
    return (.empty, token.mark)
  else node true false

def documentEnd : Step Placed := do
  let token ← peek
  if token.word = .documentEnd then drop
  modify fun o => { o with handles := [], expected := .document }
  return (.documentEnd, token.mark)

def endsItem : Word → Bool
  | .entry | .blockEnd => true
  | _ => false

def endsEntry : Word → Bool
  | .key | .value | .blockEnd => true
  | _ => false

def endsFlushItem : Word → Bool
  | .entry | .key | .value | .blockEnd => true
  | _ => false

def item : Step Placed := do
  let token ← peek
  match token.word with
  | .entry => do
      drop
      nodeUnless endsItem false .item token.mark
  | .blockEnd => leave .sequenceEnd token.mark
  | _ => failWithin .blockCollection .noEntry token.mark

def flushItem : Step Placed := do
  let token ← peek
  match token.word with
  | .entry => do
      drop
      nodeUnless endsFlushItem false .flushItem token.mark
  | _ => do
      resume
      return (.sequenceEnd, token.mark)

def key : Step Placed := do
  let token ← peek
  match token.word with
  | .key => do
      drop
      nodeUnless endsEntry true .value token.mark
  | .blockEnd => leave .mappingEnd token.mark
  | _ => failWithin .blockMapping .noKey token.mark

def value : Step Placed := do
  let token ← peek
  match token.word with
  | .value => do
      drop
      nodeUnless endsEntry true .key token.mark
  | _ => nothing .key token.mark

def endsFlowItem : Word → Bool
  | .comma | .flowSequenceEnd => true
  | _ => false

def endsPairKey : Word → Bool
  | .value | .comma | .flowSequenceEnd => true
  | _ => false

def endsFlowKey : Word → Bool
  | .value | .comma | .flowMappingEnd => true
  | _ => false

def endsFlowValue : Word → Bool
  | .comma | .flowMappingEnd => true
  | _ => false

def separated (first : Bool) (stop : Word) (activity : Activity) (complaint : Complaint) :
    Step Token := do
  let token ← peek
  if first || token.word = stop then return token
  else if token.word = .comma then following
  else failWithin activity complaint token.mark

def flowItem (first : Bool) : Step Placed := do
  let token ← separated first .flowSequenceEnd .flowSequence .noSequenceEnd
  match token.word with
  | .flowSequenceEnd => leave .sequenceEnd token.mark
  | .key => do
      expect .pairKey
      drop
      return (.mappingStart {}, token.mark)
  | _ => do
      expectAfter .flowItem
      node false false

/-- The key of a pair between brackets; the word that stands where it is missing is passed over. -/
def pairKey : Step Placed := do
  let token ← peek
  if endsPairKey token.word then
    drop
    nothing .pairValue token.mark
  else
    expectAfter .pairValue
    node false false

def pairValue : Step Placed := do
  let token ← peek
  if token.word = .value then
    drop
    flowNodeUnless endsFlowItem .pairEnd
  else nothing .pairEnd token.mark

def pairEnd : Step Placed := do
  let token ← peek
  expect .flowItem
  return (.mappingEnd, token.mark)

def flowKey (first : Bool) : Step Placed := do
  let token ← separated first .flowMappingEnd .flowMapping .noMappingEnd
  match token.word with
  | .flowMappingEnd => leave .mappingEnd token.mark
  | .key => do
      drop
      flowNodeUnless endsFlowKey .flowValue
  | _ => do
      expectAfter .emptyFlowValue
      node false false

def flowValue : Step Placed := do
  let token ← peek
  if token.word = .value then
    drop
    flowNodeUnless endsFlowValue .flowKey
  else nothing .flowKey token.mark

def emptyFlowValue : Step Placed := do
  nothing .flowKey (← peek).mark

def next : Step Placed := do
  match (← get).expected with
  | .firstDocument => document true
  | .document => document false
  | .documentContent => documentContent
  | .documentEnd => documentEnd
  | .blockNode => node true false
  | .firstItem => do
      enter
      item
  | .item => item
  | .flushItem => flushItem
  | .firstKey => do
      enter
      key
  | .key => key
  | .value => value
  | .firstFlowItem => do
      enter
      flowItem true
  | .flowItem => flowItem false
  | .pairKey => pairKey
  | .pairValue => pairValue
  | .pairEnd => pairEnd
  | .firstFlowKey => do
      enter
      flowKey true
  | .flowKey => flowKey false
  | .flowValue => flowValue
  | .emptyFlowValue => emptyFlowValue
  | .nothing => return (.streamEnd, {})

end Step

end NotebookCheck.Yaml
