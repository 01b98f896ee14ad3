import MeetingInsights.Proofs.CatalogTexts
import MeetingInsights.Proofs.FindingTexts

/-! # Texts of all models

Whatever text a model was read from, with fields left out, null or unknown, as an object or as an array,
its own text is read as the same model, and is written again as it is. The one thing a text may bring
that its own text may change is a floating-point number in metadata.
-/

namespace MeetingInsights

open Json

/-- What is both written as JSON and read of it. -/
inductive Model where
  | meeting
  | meetingDraft
  | opportunity
  | opportunityDraft
  | theme
  | evidence
  | evidenceDraft
  | rosterEntry
  | quote
  | knownProblem
  | newProblem
  | finding
deriving DecidableEq, Repr

namespace Model

def Value : Model → Type
  | meeting => Meeting
  | meetingDraft => MeetingDraft
  | opportunity => Opportunity
  | opportunityDraft => OpportunityDraft
  | theme => Theme
  | evidence => Evidence
  | evidenceDraft => EvidenceDraft
  | rosterEntry => RosterEntry
  | quote => Quote
  | knownProblem => Match
  | newProblem => Proposal
  | finding => Finding

def decode : (T : Model) → Decoder T.Value
  | meeting => Meeting.decode
  | meetingDraft => MeetingDraft.decode
  | opportunity => Opportunity.decode
  | opportunityDraft => OpportunityDraft.decode
  | theme => Theme.decode
  | evidence => Evidence.decode
  | evidenceDraft => EvidenceDraft.decode
  | rosterEntry => RosterEntry.decode
  | quote => Quote.decode
  | knownProblem => Match.decode
  | newProblem => Proposal.decode
  | finding => Finding.decode

def toJson : (T : Model) → T.Value → Json
  | meeting => Meeting.toJson
  | meetingDraft => MeetingDraft.toJson
  | opportunity => Opportunity.toJson
  | opportunityDraft => OpportunityDraft.toJson
  | theme => Theme.toJson
  | evidence => Evidence.toJson
  | evidenceDraft => EvidenceDraft.toJson
  | rosterEntry => RosterEntry.toJson
  | quote => Quote.toJson
  | knownProblem => Match.toJson
  | newProblem => Proposal.toJson
  | finding => Finding.toJson

/-- The part of a model that may be any JSON. -/
def metadata? : (T : Model) → T.Value → Option Json
  | meeting => Meeting.metadata
  | meetingDraft => MeetingDraft.metadata
  | _ => fun _ => none

def read? (T : Model) (s : String) : Option T.Value := decode? T.decode s

def write (T : Model) (v : T.Value) : String := (T.toJson v).toText

variable {T : Model} {v : T.Value}

theorem isIntegral_toJson {d : Doc} (read : T.decode 0 d = some v)
    (integral : ∀ j ∈ T.metadata? v, j.isIntegral = true) : (T.toJson v).isIntegral = true := by
  cases T with
  | meeting => exact Meeting.isIntegral_toJson integral
  | meetingDraft => exact MeetingDraft.isIntegral_toJson integral
  | opportunity => exact Opportunity.isIntegral_toJson (Opportunity.isLegible_of_decode read)
  | opportunityDraft => exact OpportunityDraft.isIntegral_toJson v
  | theme => exact Theme.isIntegral_toJson v
  | evidence => exact Evidence.isIntegral_toJson v
  | evidenceDraft => exact EvidenceDraft.isIntegral_toJson v
  | rosterEntry => exact RosterEntry.isIntegral_toJson v
  | quote => exact Quote.isIntegral_toJson v
  | knownProblem => exact Match.membersAreIntegral_members v
  | newProblem => exact Proposal.membersAreIntegral_members v
  | finding => exact Finding.isIntegral_toJson v

theorem decode_toJson {d : Doc} (read : T.decode 0 d = some v)
    (integral : ∀ j ∈ T.metadata? v, j.isIntegral = true) :
    T.decode 0 (T.toJson v).toDoc = some v := by
  have room : 0 + 2 < maxDepth := by decide
  have top : 0 < maxDepth := by decide
  cases T with
  | meeting => exact Meeting.decode_toJson top (Meeting.isLegible_of_decode read integral)
  | meetingDraft => exact MeetingDraft.decode_toJson top (MeetingDraft.keeps_of_decode read integral)
  | opportunity => exact Opportunity.decode_toJson top (Opportunity.isLegible_of_decode read)
  | opportunityDraft => exact OpportunityDraft.decode_toJson top v
  | theme => exact Theme.decode_toJson top (Theme.created_of_decode read)
  | evidence => exact Evidence.decode_toJson top (Evidence.created_of_decode read)
  | evidenceDraft => exact EvidenceDraft.decode_toJson top v
  | rosterEntry => exact RosterEntry.decode_toJson top v
  | quote => exact Quote.decode_toJson top v
  | knownProblem => exact Match.decode_toJson room v
  | newProblem => exact Proposal.decode_toJson room v
  | finding => exact Finding.decode_toJson room v

/-- The draft of a meeting as another program may write it: in an array, its source as the key of an
object, and its metadata with one key twice. -/
def foreignText : String :=
  "[\"a\", \"\\u0062\", \x7b\"file\": null\x7d, \x7b\"y\": 1, \"x\": [-0], \"y\": null\x7d]"

def ownText : String :=
  "\x7b\"title\":\"a\",\"raw_notes\":\"b\",\"source\":\"file\",\"metadata\":" ++
    "\x7b\"x\":[-0.0],\"y\":null\x7d\x7d"

end Model

end MeetingInsights
