import MeetingInsights.Json.Fields
import MeetingInsights.Meeting

/-! # Meetings in JSON

Identifiers and points in time are texts; an absent optional field is left out when a meeting is
written.
-/

namespace MeetingInsights

def Uuid.decode : Json.Decoder Uuid := fun depth d => (Json.text depth d).bind Uuid.parse?

def Timestamp.decode : Json.Decoder Timestamp := fun depth d =>
  (Json.text depth d).bind Timestamp.parse?

def Uuid.toJson (u : Uuid) : Json := .str u.toText

def Timestamp.toJson (t : Timestamp) : Json := .str t.toText

def Source.decode : Json.Decoder Source := Json.word Source.names
def Source.toJson (s : Source) : Json := .str s.name

def Status.decode : Json.Decoder Status := Json.word Status.names
def Status.toJson (s : Status) : Json := .str s.name

namespace Meeting

def fieldNames : List String :=
  ["id", "title", "raw_notes", "source", "metadata", "processing_status", "error_message",
    "created_at", "processed_at", "updated_at"]

def decode : Json.Decoder Meeting := fun depth d => do
  match ← Json.slots? fieldNames depth d with
  | [id, title, notes, source, metadata, status, message, created, processed, updated] =>
    let inner := depth + 1
    return {
      id := ← id.required Uuid.decode inner
      title := ← title.required Json.text inner
      rawNotes := ← notes.required Json.text inner
      source := ← source.required Source.decode inner
      metadata := ← metadata.nullable Json.anything inner
      status := ← status.required Status.decode inner
      errorMessage := ← message.nullable Json.text inner
      createdAt := ← created.required Timestamp.decode inner
      processedAt := ← processed.nullable Timestamp.decode inner
      updatedAt := ← updated.required Timestamp.decode inner }
  | _ => none

def toJson (m : Meeting) : Json :=
  .obj ([("id", m.id.toJson), ("title", .str m.title), ("raw_notes", .str m.rawNotes),
      ("source", m.source.toJson)] ++ Json.optional m.metadata "metadata" ++
    [("processing_status", m.status.toJson)] ++
    Json.optional (m.errorMessage.map .str) "error_message" ++
    [("created_at", m.createdAt.toJson)] ++
    Json.optional (m.processedAt.map Timestamp.toJson) "processed_at" ++
    [("updated_at", m.updatedAt.toJson)])

end Meeting

namespace MeetingDraft

def fieldNames : List String := ["title", "raw_notes", "source", "metadata"]

/-- Reads the draft of a meeting; its source is manual unless it says otherwise. -/
def decode : Json.Decoder MeetingDraft := fun depth d => do
  match ← Json.slots? fieldNames depth d with
  | [title, notes, source, metadata] =>
    let inner := depth + 1
    return {
      title := ← title.required Json.text inner
      rawNotes := ← notes.required Json.text inner
      source := ← source.withDefault .manual Source.decode inner
      metadata := ← metadata.nullableOrAbsent Json.anything inner }
  | _ => none

def toJson (m : MeetingDraft) : Json :=
  .obj ([("title", .str m.title), ("raw_notes", .str m.rawNotes), ("source", m.source.toJson)] ++
    Json.optional m.metadata "metadata")

end MeetingDraft

end MeetingInsights
