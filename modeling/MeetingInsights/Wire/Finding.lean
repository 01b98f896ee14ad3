import MeetingInsights.Finding
import MeetingInsights.Json.Fields

/-! # Findings in JSON

A finding is tagged: an object names its kind under `type`, wherever it stands among the members, and
an array names it first. All of a tagged document must stand for something, also the parts that are
passed over.
-/

namespace MeetingInsights

namespace Quote

def fieldNames : List String := ["quote", "context"]

/-- Reads a quote; the text is empty unless it is given. -/
def decode : Json.Decoder Quote := fun depth d => do
  match ← Json.slots? fieldNames depth d with
  | [text, context] =>
    let inner := depth + 1
    return {
      text := ← text.withDefault "" Json.text inner
      context := ← context.nullableOrAbsent Json.text inner }
  | _ => none

def toJson (q : Quote) : Json :=
  .obj (("quote", .str q.text) :: Json.optional (q.context.map .str) "context")

end Quote

namespace Match

def fieldNames : List String := ["existing_opportunity_id", "evidence_quotes"]

def ofSlots? (depth : Nat) : List Json.Slot → Option Match
  | [reference, quotes] => do
    return {
      reference := ← reference.nullableOrAbsent Json.text depth
      quotes := ← quotes.withDefault [] (Json.list Quote.decode) depth }
  | _ => none

def decode : Json.Decoder Match := fun depth d => do
  ofSlots? (depth + 1) (← Json.slots? fieldNames depth d)

def members (m : Match) : List (String × Json) :=
  [("existing_opportunity_id", Json.nullable m.reference),
    ("evidence_quotes", .arr (m.quotes.map Quote.toJson))]

def toJson (m : Match) : Json := .obj m.members

end Match

namespace Proposal

def fieldNames : List String :=
  ["user_segment", "struggle", "why_it_matters", "workaround", "theme", "evidence_quotes"]

def ofSlots? (depth : Nat) : List Json.Slot → Option Proposal
  | [segment, struggle, why, workaround, theme, quotes] => do
    return {
      userSegment := ← segment.withDefault "" Json.text depth
      struggle := ← struggle.withDefault "" Json.text depth
      whyItMatters := ← why.nullableOrAbsent Json.text depth
      workaround := ← workaround.nullableOrAbsent Json.text depth
      theme := ← theme.nullableOrAbsent Json.text depth
      quotes := ← quotes.withDefault [] (Json.list Quote.decode) depth }
  | _ => none

def decode : Json.Decoder Proposal := fun depth d => do
  ofSlots? (depth + 1) (← Json.slots? fieldNames depth d)

def members (p : Proposal) : List (String × Json) :=
  [("user_segment", .str p.userSegment), ("struggle", .str p.struggle),
    ("why_it_matters", Json.nullable p.whyItMatters), ("workaround", Json.nullable p.workaround),
    ("theme", Json.nullable p.theme), ("evidence_quotes", .arr (p.quotes.map Quote.toJson))]

def toJson (p : Proposal) : Json := .obj p.members

end Proposal

namespace Finding

def tagKey : String := "type"

/-- The documents under the tag's key, and the other members. -/
def splitTag : List (Json.Literal × Json.Doc) → List Json.Doc × List (Json.Literal × Json.Doc)
  | [] => ([], [])
  | (k, d) :: ms =>
    let (tags, rest) := splitTag ms
    if Json.Literal.text? k = some tagKey then (d :: tags, rest) else (tags, (k, d) :: rest)

/-- Makes a finding of its tag and the slots that its kind's fields find in the rest. -/
def ofTag? (tag : Json.Doc) (slots : List String → Option (List Json.Slot)) (depth : Nat) :
    Option Finding := do
  let tag ← Json.text depth tag
  if tag = "match" then
    return .matched (← Match.ofSlots? depth (← slots Match.fieldNames))
  else if tag = "new" then
    return .proposed (← Proposal.ofSlots? depth (← slots Proposal.fieldNames))
  else none

def decode : Json.Decoder Finding := fun depth d =>
  if d.isSound depth then
    match d with
    | .object members =>
      match splitTag members with
      | ([tag], rest) => ofTag? tag (fun names => Json.slotsByName names rest) (depth + 1)
      | _ => none
    | .array (tag :: items) =>
      ofTag? tag (fun names => Json.slotsByPosition names items) (depth + 1)
    | _ => none
  else none

/-- Writes a finding, its tag first. -/
def toJson (f : Finding) : Json :=
  .obj ((tagKey, .str f.kind) ::
    match f with
    | .matched m => m.members
    | .proposed p => p.members)

end Finding

end MeetingInsights
