import MeetingInsights.Json.Value
import MeetingInsights.Text.Lowercase
import MeetingInsights.Timestamp
import MeetingInsights.Uuid

/-! # Meetings

A meeting with its raw notes, where the notes came from, and how far their processing has got.
-/

namespace MeetingInsights

inductive Source where
  | manual
  | notion
  | file
deriving DecidableEq, Repr, Inhabited

namespace Source

def name : Source → String
  | .manual => "manual"
  | .notion => "notion"
  | .file => "file"

def names : List (String × Source) := [.manual, .notion, .file].map fun s => (s.name, s)

def parse? (s : String) : Option Source := names.lookup (Text.lowercase s)

def invalid (s : String) : String := "Invalid meeting source: " ++ s

end Source

/-- The processing state of a meeting: from queued to processing, and from there to done or failed. -/
inductive Status where
  | queued
  | processing
  | done
  | failed
deriving DecidableEq, Repr, Inhabited

namespace Status

def name : Status → String
  | .queued => "queued"
  | .processing => "processing"
  | .done => "done"
  | .failed => "failed"

def names : List (String × Status) :=
  [.queued, .processing, .done, .failed].map fun s => (s.name, s)

def parse? (s : String) : Option Status := names.lookup (Text.lowercase s)

def invalid (s : String) : String := "Invalid processing status: " ++ s

/-- A meeting that is done or failed takes no further updates. -/
def isTerminal : Status → Bool
  | .done | .failed => true
  | .queued | .processing => false

end Status

structure Meeting where
  id : Uuid
  title : String
  rawNotes : String
  source : Source
  metadata : Option Json
  status : Status
  errorMessage : Option String
  createdAt : Timestamp
  processedAt : Option Timestamp
  updatedAt : Timestamp
deriving Inhabited

structure MeetingDraft where
  title : String
  rawNotes : String
  source : Source
  metadata : Option Json
deriving Inhabited

namespace Meeting

/-- A new meeting, waiting to be processed. -/
def ofDraft (draft : MeetingDraft) (id : Uuid) (now : Timestamp) : Meeting where
  id := id
  title := draft.title
  rawNotes := draft.rawNotes
  source := draft.source
  metadata := draft.metadata
  status := .queued
  errorMessage := none
  createdAt := now
  processedAt := none
  updatedAt := now

/-- The meeting after an update of its status. A terminal status also records when it was reached. -/
def withStatus (m : Meeting) (status : Status) (message : Option String) (now : Timestamp) :
    Meeting :=
  { m with
    status := status
    errorMessage := message
    updatedAt := now
    processedAt := if status.isTerminal then some now else m.processedAt }

end Meeting

end MeetingInsights
