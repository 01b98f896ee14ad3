import MeetingInsights.Chat.Selection
import MeetingInsights.CommandLine.Failure
import MeetingInsights.CommandLine.Help
import MeetingInsights.Database.Address
import MeetingInsights.Json.Printer
import MeetingInsights.Wire.Catalog
import MeetingInsights.Wire.Meeting

/-! # Execution of commands

What a command line leads to, given the files that it names, the environment, the network and an
empty store. Nothing here reaches a database, so all that needs one fails to connect.
-/

namespace MeetingInsights.CommandLine

open Config (Lookup)

inductive Outcome where
  | interrupted (i : Interruption)
  | failed (f : Failure)
  /-- No queue could be made for the meetings that wait. -/
  | crashed
  | reported (report : Json)
deriving Inhabited

def Outcome.exitCode : Outcome → Nat
  | .interrupted i => i.exitCode
  | .failed _ => Failure.exitCode
  | .crashed => 101
  | .reported _ => 0

/-- What a run writes, and whether it is the result that was asked for. -/
def Outcome.text : Outcome → String × Bool
  | .interrupted i => (i.text, i.exitCode = 0)
  | .failed f => (f.text, false)
  | .crashed => ("no queue holds that many meetings\n", false)
  | .reported report => (report.toIndentedText ++ "\n", true)

structure Surroundings where
  files : String → File
  lookup : Lookup
  /-- The network. -/
  send : Chat.Request → Chat.Reply
  /-- The store of a dry run, with what its new rows get. -/
  backend : Backend

def Invocation.paths (i : Invocation) : List String :=
  match i.command with
  | .ingest { notes := .file path, .. } => [i.configPath, path]
  | _ => [i.configPath]

def Notes.read (files : String → File) : Notes → Except Failure String
  | .text s => .ok s
  | .file path =>
    match (files path).read with
    | .ok s => .ok s
    | .error detail => .error (.notes detail)

def IngestOptions.draft (o : IngestOptions) (notes : String) : MeetingDraft where
  title := o.title
  rawNotes := notes
  source := o.source
  metadata := none

/-- What is told about the store at the end of a dry run. -/
def catalogMembers (s : Store) : List (String × Json) :=
  [("opportunities", .arr (s.describedOpportunities.map Opportunity.toJson)),
    ("themes", .arr (s.themesByName.map Theme.toJson))]

def sortedObject (members : List (String × Json)) : Json :=
  .obj (members.mergeSort fun a b => a.1 ≤ b.1)

/-- Takes a meeting through the store of a dry run, as far as its provider is enabled. -/
def dryRun (c : Config) (o : IngestOptions) (notes : String) (w : Surroundings) : Outcome :=
  let draft := o.draft notes
  if c.ai.isEnabled then
    let (endpoint, _) := Chat.select c.ai
    match Ingest.run? (Chat.extract endpoint w.send) c.queue.poolSettings draft
      (o.timeoutSecs * 1000) w.backend with
    | none => .crashed
    | some (.error f, _) => .failed (.ingest f)
    | some (.ok r, b) => .reported (sortedObject ([
        ("meeting", r.meeting.toJson),
        ("opportunities_created", .int r.opportunitiesCreated),
        ("evidence_added", .int r.evidenceAdded)] ++ catalogMembers b.store))
  else
    let (m, store) := w.backend.store.createMeeting draft w.backend.supply.meeting w.backend.now
    .reported (sortedObject (("meeting", m.toJson) :: catalogMembers store))

def ingest (c : Config) (o : IngestOptions) (w : Surroundings) : Outcome :=
  match o.notes.read w.files with
  | .error f => .failed f
  | .ok notes =>
    if o.isDryRun then dryRun c o notes w
    else .failed (.connection (Database.refusal c.database.url))

def Invocation.execute (i : Invocation) (w : Surroundings) : Outcome :=
  match Config.load (w.files i.configPath) w.lookup with
  | .error reason => .failed (.config i.configPath reason)
  | .ok c =>
    match i.command with
    | .ingest o => ingest c o w
    | .serve | .migrate => .failed (.connection (Database.refusal c.database.url))

def run (args : List String) (w : Surroundings) : Outcome :=
  match Invocation.parse (w.lookup configVariable) args with
  | .error i => .interrupted i
  | .ok i => i.execute w

end MeetingInsights.CommandLine
