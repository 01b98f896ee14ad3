import MeetingInsights.Config.File
import MeetingInsights.Ingest

/-! # Failures of a run

What is told when a command fails: what was attempted, and the causes of its failure.
-/

namespace MeetingInsights.CommandLine

inductive Failure where
  /-- The configuration at a path. -/
  | config (path : String) (reason : Config.LoadFailure)
  /-- The notes, with what the system says. -/
  | notes (detail : String)
  /-- The connection to the database. -/
  | connection (e : Error)
  | ingest (f : Ingest.Failure)
deriving Repr, Inhabited

namespace Failure

def exitCode : Nat := 1

/-- A failure with the one inside of it, if there is one. -/
def causesOf (e : Error) : List String :=
  match e with
  | .io d | .database d => [e.message, d]
  | _ => [e.message]

/-- What was attempted, or the failure itself where nothing needs to be said about that. -/
def headline : Failure → String
  | .config path _ => "failed to load config from " ++ path
  | .notes _ => "failed to read notes"
  | .connection _ => "failed to connect to database"
  | .ingest f => f.message

def causes : Failure → List String
  | .config _ .malformed => [(Error.config "malformed document").message]
  | .config _ (.refused e) => causesOf e
  | .notes detail => [detail]
  | .connection e => causesOf e
  | .ingest _ => []

def indentedLines (indent s : String) : String := ("\n" ++ indent).intercalate (s.splitOn "\n")

def numbered (n : Nat) (cause : String) : String :=
  "\n    " ++ toString n ++ ": " ++ indentedLines "       " cause

/-- The lines about causes. They are numbered if there is more than one. -/
def causeLines : List String → String
  | [] => ""
  | [cause] => "\n\nCaused by:\n    " ++ indentedLines "    " cause
  | causes => "\n\nCaused by:" ++ "".intercalate (causes.mapIdx numbered)

def opening (f : Failure) : String := "Error: " ++ f.headline

def text (f : Failure) : String := f.opening ++ causeLines f.causes ++ "\n"

end Failure

end MeetingInsights.CommandLine
