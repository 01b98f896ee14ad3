import MeetingInsights.CommandLine.Parameter
import MeetingInsights.Config.Basic
import MeetingInsights.Meeting
import MeetingInsights.Number.Decimal

/-! # Invocations of the program

The commands of the program with their parameters, and the invocation that a command line stands for.
The place of the configuration may be given before the command, behind it, or in the environment.
-/

namespace MeetingInsights.CommandLine

inductive Notes where
  | text (s : String)
  | file (path : String)
deriving DecidableEq, Repr, Inhabited

structure IngestOptions where
  title : String
  notes : Notes
  source : Source
  /-- Nothing is written to the database. -/
  isDryRun : Bool
  timeoutSecs : Nat
deriving DecidableEq, Repr, Inhabited

inductive Command where
  | serve
  | ingest (options : IngestOptions)
  | migrate
deriving DecidableEq, Repr, Inhabited

structure Invocation where
  configPath : String
  command : Command
deriving DecidableEq, Repr, Inhabited

def anyText (_ : String) : Option Interruption := none

def path (s : String) : Option Interruption := if s.isEmpty then some .noValue else none

def readable {α : Type} (read? : String → Option α) (s : String) : Option Interruption :=
  if (read? s).isSome then none else some .unreadableValue

def seconds? (s : String) : Option Nat := Number.unsignedInteger? 64 s

def sharedParameters : List Parameter := [
  ⟨"config", none, .setting path⟩,
  ⟨"help", some 'h', .help⟩,
  ⟨"version", some 'V', .version⟩]

def ingestParameters : List Parameter := [
  ⟨"title", some 't', .setting anyText⟩,
  ⟨"notes", some 'n', .setting anyText⟩,
  ⟨"notes-file", some 'f', .setting path⟩,
  ⟨"source", some 's', .setting (readable Source.parse?)⟩,
  ⟨"dry-run", none, .switch⟩,
  ⟨"timeout-secs", none, .setting (readable seconds?)⟩]

def programName : String := "noker"

def programVersion : String := "2026.10.0"

/-- The commands, of which the last one gives help on the others. -/
def commandNames : List String := ["serve", "ingest", "migrate", "help"]

def program : Level := ⟨programName, sharedParameters, commandNames⟩

def commandLevel (name : String) : Level :=
  let own := if name = "ingest" then ingestParameters else []
  ⟨programName ++ "-" ++ name, own ++ sharedParameters, []⟩

def configVariable : String := "NOKER_CONFIG"

def standardTimeoutSecs : Nat := 300

/-- Ends a level. Where it does not give the place of the configuration the environment counts, and
must not name an empty path. -/
def close (inherited? : Option String) (ws : Words) : Except Interruption Words := do
  let ws ← ws.settle
  if !ws.has "config" && inherited?.any String.isEmpty then .error .noValue
  return ws

/-- The notes that are given, which must be given in one way only. -/
def notesOf (ws : Words) : Except Interruption Notes :=
  match ws.value? "notes", ws.value? "notes-file" with
  | some _, some _ => .error .conflict
  | some s, none => .ok (.text s)
  | none, some path => .ok (.file path)
  | none, none => .error .incomplete

def ingestOf (ws : Words) : Except Interruption IngestOptions := do
  let notes ← notesOf ws
  match ws.value? "title" with
  | none => .error .incomplete
  | some title =>
    return {
      title, notes
      source := ((ws.value? "source").bind Source.parse?).getD .manual
      isDryRun := ws.has "dry-run"
      timeoutSecs := ((ws.value? "timeout-secs").bind seconds?).getD standardTimeoutSecs }

def commandOf (name : String) (ws : Words) : Except Interruption Command :=
  if name = "ingest" then (ingestOf ws).map .ingest
  else if name = "serve" then .ok .serve
  else .ok .migrate

def readCommand (inherited? : Option String) (name : String) (rest : List String) :
    Except Interruption (Words × Command) := do
  let (ws, _) ← (commandLevel name).read .none false rest
  let ws ← close inherited? ws
  return (ws, ← commandOf name ws)

def help : List String → Interruption
  | [] => .help
  | [name] => if name ∈ commandNames then .help else .unknownCommand
  | _ => .unknownCommand

/-- Reads a command line, where the environment may name the place of the configuration. What stands
behind the command comes before what stands in front of it. -/
def Invocation.parse (inherited? : Option String) (args : List String) :
    Except Interruption Invocation := do
  let (ws, command?) ← program.read .none false args
  match command? with
  | none =>
    let ws ← close inherited? ws
    .error (if ws.given.isEmpty && inherited?.isNone then .nothingGiven else .noCommand)
  | some (name, rest) =>
    if name = "help" then .error (help rest)
    else
      let (inner, command) ← readCommand inherited? name rest
      let ws ← close inherited? ws
      let given := (inner.value? "config").or (ws.value? "config")
      return ⟨(given.or inherited?).getD Config.standardPath, command⟩

end MeetingInsights.CommandLine
