import NotebookCheck.CommandLine.Level
import NotebookCheck.Configuration.Environment

/-!
Reading the words of a command line, level by level.  An option's value is taken up only when the
next option comes or the words of its level end, so that a word which cannot be read at all is
refused before a value that cannot be used; and a level is closed only after the levels below it.
-/

namespace NotebookCheck.CommandLine

inductive UsageError where
  | helpAsked
  | versionAsked
  | commandAbsent
  | subcommandAbsent
  | argumentAbsent
  | unknownSubcommand
  | unknownArgument
  | valueRefused
  | valueMalformed
  | repeated
  | valueForSwitch
deriving Repr, DecidableEq, Inhabited

/-- The exit code for words that are not a command; to ask for help or the version is no failure. -/
def UsageError.exitCode : UsageError → Nat
  | helpAsked | versionAsked => 0
  | _ => 2

inductive Word where
  | divider
  | long (name : String) (value : Option String)
  | letters (cs : List Char)
  | plain
deriving Repr, DecidableEq, Inhabited

def Word.of (word : String) : Word :=
  match word.toList with
  | ['-', '-'] => divider
  | '-' :: '-' :: rest =>
      let (name, value) := rest.span (· ≠ '=')
      long (String.ofList name)
        (match value with
          | [] => none
          | _ :: value => some (String.ofList value))
  | ['-'] => plain
  | '-' :: rest => letters rest
  | _ => plain

inductive Format where
  | text
  | json
deriving Repr, DecidableEq, Inhabited

def Format.ofName? (name : String) : Option Format :=
  if name = "text" then some .text else if name = "json" then some .json else none

def seconds? (value : String) : Option Nat := Configuration.readCount? 64 value

def Opt.checkValue (o : Opt) (value : String) : Except UsageError Unit :=
  match o with
  | .config => if value.isEmpty then .error .valueRefused else .ok ()
  | .output => if (Format.ofName? value).isNone then .error .valueRefused else .ok ()
  | .timeout | .overallTimeout =>
      if (seconds? value).isNone then .error .valueMalformed else .ok ()
  | _ => .ok ()

/-- An option that still has to be taken up, with its value once that has been read. -/
structure Pending where
  option : Opt
  value : Option String
deriving Repr, DecidableEq, Inhabited

/-- What has been given at a level: the options with their values in order, a switch with an empty
value, and the option still to be taken up. -/
structure Given where
  values : List (Opt × String) := []
  pending : Option Pending := none
deriving Repr, DecidableEq, Inhabited

namespace Given

def has (g : Given) (o : Opt) : Bool := g.values.any fun v => v.1 = o

def take (g : Given) (o : Opt) (value : Option String) : Except UsageError Given :=
  match o, value with
  | .help, _ => .error .helpAsked
  | .version, _ => .error .versionAsked
  | o, value =>
      if value.isNone && !o.isSwitch then .error .valueRefused
      else if g.has o && !o.isRepeatable then .error .repeated
      else do
        let value := value.getD ""
        o.checkValue value
        return { values := g.values ++ [(o, value)] }

def settle (g : Given) : Except UsageError Given :=
  match g.pending with
  | none => .ok g
  | some p => { g with pending := none }.take p.option p.value

def add (g : Given) (o : Opt) (value : Option String) : Except UsageError Given := do
  (← g.settle).take o value

def await (g : Given) (o : Opt) : Except UsageError Given := do
  return { ← g.settle with pending := some ⟨o, none⟩ }

def awaiting? (g : Given) : Option Opt :=
  match g.pending with
  | some ⟨o, none⟩ => some o
  | _ => none

end Given

/-- Reads the letters of a word: switches, and at most one option, whose value is the rest of the
word or follows it. -/
def readLetters (level : Level) (g : Given) : List Char → Except UsageError Given
  | [] => .ok g
  | c :: rest =>
      match level.optionLettered? c with
      | none => .error .unknownArgument
      | some o =>
          if o.isSwitch then do readLetters level (← g.add o none) rest
          else
            match rest with
            | [] => g.await o
            | '=' :: value => g.add o (some (String.ofList value))
            | value => g.add o (some (String.ofList value))

def readLong (level : Level) (g : Given) (name : String) (value : Option String) :
    Except UsageError Given :=
  match level.optionNamed? name with
  | none => .error .unknownArgument
  | some o =>
      match value with
      | some value => if o.isSwitch then .error .valueForSwitch else g.add o (some value)
      | none => if o.isSwitch then g.add o none else g.await o

def strayWord (level : Level) (afterDivider : Bool) (word : String) : UsageError :=
  if !level.isBranch then .unknownArgument
  else if afterDivider && ((level.command? word).isSome || word = "help") then .unknownArgument
  else .unknownSubcommand

/-- What comes of asking for the help of a command by the names that lead to it. -/
def helpFor (level : Level) : List String → UsageError
  | [] => .helpAsked
  | name :: names =>
      match level.command? name with
      | some level => helpFor level names
      | none =>
          if level.isBranch && name = "help" && names.isEmpty then .helpAsked
          else .unknownSubcommand

def closeLevel (level : Level) (g : Given) (below : List (Level × Given)) :
    Except UsageError (List (Level × Given)) := do
  let g ← g.settle
  if level.isBranch && below.isEmpty then
    .error (if g.values.isEmpty then .commandAbsent else .subcommandAbsent)
  else if !level.required.all g.has then .error .argumentAbsent
  else return (level, g) :: below

def readLevel (level : Level) (g : Given) (afterDivider : Bool) :
    List String → Except UsageError (List (Level × Given))
  | [] => closeLevel level g []
  | word :: rest =>
      if afterDivider then .error (strayWord level true word)
      else
        match g.awaiting?, level.command? word with
        | none, some child => do
            let below ← readLevel child {} false rest
            closeLevel level g below
        | awaiting, _ =>
            if awaiting.isNone && level.isBranch && word = "help" then .error (helpFor level rest)
            else
              match Word.of word, awaiting with
              | .divider, _ => readLevel level g true rest
              | .long name value, _ => do readLevel level (← readLong level g name value) false rest
              | .letters cs, _ => do readLevel level (← readLetters level g cs) false rest
              | .plain, some o =>
                  readLevel level { g with pending := some ⟨o, some word⟩ } false rest
              | .plain, none => .error (strayWord level false word)

def readWords (words : List String) : Except UsageError (List (Level × Given)) :=
  readLevel .root {} false words

end NotebookCheck.CommandLine
