import MeetingInsights.Catalog
import MeetingInsights.Wire.Meeting

/-! # Opportunities, themes and evidence in JSON -/

namespace MeetingInsights

namespace Opportunity

def fieldNames : List String :=
  ["id", "user_segment", "struggle", "why_it_matters", "workaround", "theme_id", "theme_name",
    "evidence_count", "created_at", "updated_at"]

def decode : Json.Decoder Opportunity := fun depth d => do
  match ← Json.slots? fieldNames depth d with
  | [id, segment, struggle, why, workaround, themeId, themeName, count, created, updated] =>
    let inner := depth + 1
    return {
      id := ← id.required Uuid.decode inner
      userSegment := ← segment.required Json.text inner
      struggle := ← struggle.required Json.text inner
      whyItMatters := ← why.nullable Json.text inner
      workaround := ← workaround.nullable Json.text inner
      themeId := ← themeId.nullable Uuid.decode inner
      themeName := ← themeName.nullable Json.text inner
      evidenceCount := ← count.required Json.signed64 inner
      createdAt := ← created.required Timestamp.decode inner
      updatedAt := ← updated.required Timestamp.decode inner }
  | _ => none

def toJson (o : Opportunity) : Json :=
  .obj ([("id", o.id.toJson), ("user_segment", .str o.userSegment), ("struggle", .str o.struggle)] ++
    Json.optional (o.whyItMatters.map .str) "why_it_matters" ++
    Json.optional (o.workaround.map .str) "workaround" ++
    Json.optional (o.themeId.map Uuid.toJson) "theme_id" ++
    Json.optional (o.themeName.map .str) "theme_name" ++
    [("evidence_count", .int o.evidenceCount), ("created_at", o.createdAt.toJson),
      ("updated_at", o.updatedAt.toJson)])

end Opportunity

namespace OpportunityDraft

def fieldNames : List String :=
  ["user_segment", "struggle", "why_it_matters", "workaround", "theme_id"]

def decode : Json.Decoder OpportunityDraft := fun depth d => do
  match ← Json.slots? fieldNames depth d with
  | [segment, struggle, why, workaround, themeId] =>
    let inner := depth + 1
    return {
      userSegment := ← segment.required Json.text inner
      struggle := ← struggle.required Json.text inner
      whyItMatters := ← why.nullable Json.text inner
      workaround := ← workaround.nullable Json.text inner
      themeId := ← themeId.nullable Uuid.decode inner }
  | _ => none

def toJson (o : OpportunityDraft) : Json :=
  .obj [("user_segment", .str o.userSegment), ("struggle", .str o.struggle),
    ("why_it_matters", Json.nullable o.whyItMatters), ("workaround", Json.nullable o.workaround),
    ("theme_id", Json.nullable (o.themeId.map Uuid.toText))]

end OpportunityDraft

namespace Theme

def fieldNames : List String := ["id", "name", "created_at"]

def decode : Json.Decoder Theme := fun depth d => do
  match ← Json.slots? fieldNames depth d with
  | [id, name, created] =>
    let inner := depth + 1
    return {
      id := ← id.required Uuid.decode inner
      name := ← name.required Json.text inner
      createdAt := ← created.required Timestamp.decode inner }
  | _ => none

def toJson (t : Theme) : Json :=
  .obj [("id", t.id.toJson), ("name", .str t.name), ("created_at", t.createdAt.toJson)]

end Theme

namespace Evidence

def fieldNames : List String :=
  ["id", "opportunity_id", "meeting_id", "quote", "context", "created_at"]

def decode : Json.Decoder Evidence := fun depth d => do
  match ← Json.slots? fieldNames depth d with
  | [id, opportunityId, meetingId, quote, context, created] =>
    let inner := depth + 1
    return {
      id := ← id.required Uuid.decode inner
      opportunityId := ← opportunityId.required Uuid.decode inner
      meetingId := ← meetingId.required Uuid.decode inner
      quote := ← quote.required Json.text inner
      context := ← context.nullable Json.text inner
      createdAt := ← created.required Timestamp.decode inner }
  | _ => none

def toJson (e : Evidence) : Json :=
  .obj ([("id", e.id.toJson), ("opportunity_id", e.opportunityId.toJson),
      ("meeting_id", e.meetingId.toJson), ("quote", .str e.quote)] ++
    Json.optional (e.context.map .str) "context" ++ [("created_at", e.createdAt.toJson)])

end Evidence

namespace EvidenceDraft

def fieldNames : List String := ["opportunity_id", "meeting_id", "quote", "context"]

def decode : Json.Decoder EvidenceDraft := fun depth d => do
  match ← Json.slots? fieldNames depth d with
  | [opportunityId, meetingId, quote, context] =>
    let inner := depth + 1
    return {
      opportunityId := ← opportunityId.required Uuid.decode inner
      meetingId := ← meetingId.required Uuid.decode inner
      quote := ← quote.required Json.text inner
      context := ← context.nullable Json.text inner }
  | _ => none

def toJson (e : EvidenceDraft) : Json :=
  .obj [("opportunity_id", e.opportunityId.toJson), ("meeting_id", e.meetingId.toJson),
    ("quote", .str e.quote), ("context", Json.nullable e.context)]

end EvidenceDraft

namespace RosterEntry

def fieldNames : List String := ["opportunity_id", "struggle", "theme_name"]

def decode : Json.Decoder RosterEntry := fun depth d => do
  match ← Json.slots? fieldNames depth d with
  | [opportunityId, struggle, themeName] =>
    let inner := depth + 1
    return {
      opportunityId := ← opportunityId.required Uuid.decode inner
      struggle := ← struggle.required Json.text inner
      themeName := ← themeName.nullable Json.text inner }
  | _ => none

def toJson (r : RosterEntry) : Json :=
  .obj ([("opportunity_id", r.opportunityId.toJson), ("struggle", .str r.struggle)] ++
    Json.optional (r.themeName.map .str) "theme_name")

end RosterEntry

end MeetingInsights
