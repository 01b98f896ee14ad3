/-! # Parameters of a command line

A command has parameters, named after two hyphens or by one letter after a single one. Letters may
stand together, and a value may stand behind its parameter in the same word or in the next one.
-/

namespace MeetingInsights.CommandLine

/-- Why a command line does not lead to a command. -/
inductive Interruption where
  /-- Help is asked for. -/
  | help
  /-- The version is asked for, of what has this title. -/
  | version (title : String)
  /-- There is nothing on the command line. -/
  | nothingGiven
  /-- There are parameters but no command. -/
  | noCommand
  | unknownCommand
  | unknownArgument
  /-- A value is missing, or is an empty path. -/
  | noValue
  /-- A value cannot be read. -/
  | unreadableValue
  /-- There is a value where none is taken. -/
  | unexpectedValue
  /-- Something that is required is missing. -/
  | incomplete
  /-- A parameter occurs twice, or together with one that excludes it. -/
  | conflict
deriving DecidableEq, Repr, Inhabited

def Interruption.exitCode : Interruption → Nat
  | .help | .version _ => 0
  | _ => 2

inductive Role where
  /-- It takes a value, which is checked. -/
  | setting (check : String → Option Interruption)
  | switch
  | help
  | version

structure Parameter where
  name : String
  letter : Option Char
  role : Role

/-- A command, or the program as a whole: its title, its parameters and the names of its commands. -/
structure Level where
  title : String
  parameters : List Parameter
  commands : List String

/-- What has been read of a level: the parameters with their values, and one that the next word may
give a value to. A value is taken in only when the next parameter shows, so that complaints about it
come after complaints about the words behind it. -/
structure Words where
  given : List (String × String)
  pending : Option (Parameter × Option String)

namespace Words

def none : Words := ⟨[], .none⟩

def value? (ws : Words) (name : String) : Option String := ws.given.lookup name

def has (ws : Words) (name : String) : Bool := (ws.value? name).isSome

/-- Takes in a value, which must be the first one for its parameter. -/
def put (ws : Words) (p : Parameter) (v : String) : Except Interruption Words :=
  if ws.has p.name then .error .conflict
  else
    match p.role with
    | .setting check =>
      match check v with
      | some i => .error i
      | .none => .ok { ws with given := (p.name, v) :: ws.given }
    | _ => .ok { ws with given := (p.name, v) :: ws.given }

def settle (ws : Words) : Except Interruption Words :=
  match ws.pending with
  | .none => .ok ws
  | some (_, .none) => .error .noValue
  | some (p, some v) => { ws with pending := .none }.put p v

/-- Whether the next word can be the value of the parameter before it. -/
def awaitsValue (ws : Words) : Bool :=
  match ws.pending with
  | some (_, .none) => true
  | _ => false

def supply (ws : Words) (v : String) : Words :=
  { ws with pending := ws.pending.map fun (p, _) => (p, some v) }

/-- Reads a parameter that takes a value, with the value behind it in the same word. -/
def setting (ws : Words) (p : Parameter) (attached : Option String) : Except Interruption Words := do
  let ws ← ws.settle
  match attached with
  | some v => ws.put p v
  | .none => return { ws with pending := some (p, .none) }

def toggle (ws : Words) (title : String) (p : Parameter) : Except Interruption Words := do
  let ws ← ws.settle
  match p.role with
  | .help => .error .help
  | .version => .error (.version title)
  | _ => ws.put p "true"

end Words

def splitAtEquals (cs : List Char) : List Char × Option (List Char) :=
  match cs.dropWhile (· != '=') with
  | _ :: v => (cs.takeWhile (· != '='), some v)
  | [] => (cs, none)

namespace Level

def long (l : Level) (ws : Words) (cs : List Char) : Except Interruption Words :=
  let (name, attached) := splitAtEquals cs
  match l.parameters.find? fun p => p.name.toList = name with
  | none => .error .unknownArgument
  | some p =>
    match p.role, attached with
    | .setting _, v => ws.setting p (v.map String.ofList)
    | _, some _ => .error .unexpectedValue
    | _, none => ws.toggle l.title p

/-- The value behind a letter: an equals sign before it does not count. -/
def valueAfterLetter : List Char → Option String
  | [] => none
  | '=' :: cs => some (String.ofList cs)
  | cs => some (String.ofList cs)

/-- Reads letters after a single hyphen. What follows a letter that takes a value is its value. -/
def letters (l : Level) (ws : Words) : List Char → Except Interruption Words
  | [] => .ok ws
  | c :: cs =>
    match l.parameters.find? fun p => p.letter = some c with
    | none => .error .unknownArgument
    | some p =>
      match p.role with
      | .setting _ => ws.setting p (valueAfterLetter cs)
      | _ =>
        match ws.toggle l.title p with
        | .ok ws => l.letters ws cs
        | .error i => .error i

/-- The complaint about a word that is neither a parameter nor a value. Where there are commands it
is taken for one of them, unless two hyphens forbid that. -/
def stray (l : Level) (isTrailing : Bool) (word : String) : Interruption :=
  if l.commands.isEmpty then .unknownArgument
  else if isTrailing && word ∈ l.commands then .unknownArgument
  else .unknownCommand

/-- Reads words up to the name of a command, or to the end. After two hyphens that stand alone, words
are neither parameters nor values. -/
def read (l : Level) (ws : Words) (isTrailing : Bool) :
    List String → Except Interruption (Words × Option (String × List String))
  | [] => .ok (ws, none)
  | word :: rest =>
    if isTrailing then .error (l.stray isTrailing word)
    else if !ws.awaitsValue && word ∈ l.commands then .ok (ws, some (word, rest))
    else
      match word.toList with
      | ['-', '-'] => l.read ws true rest
      | '-' :: '-' :: cs =>
        match l.long ws cs with
        | .ok ws => l.read ws isTrailing rest
        | .error i => .error i
      | '-' :: c :: cs =>
        match l.letters ws (c :: cs) with
        | .ok ws => l.read ws isTrailing rest
        | .error i => .error i
      | _ =>
        if ws.awaitsValue then l.read (ws.supply word) isTrailing rest
        else .error (l.stray isTrailing word)

end Level

end MeetingInsights.CommandLine
