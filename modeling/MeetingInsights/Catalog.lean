import MeetingInsights.Timestamp
import MeetingInsights.Uuid

/-! # Opportunities, themes and evidence

What accumulates across meetings: customer problems, the themes that group them, and the quotes that
support them.
-/

namespace MeetingInsights

structure OpportunityRecord where
  id : Uuid
  userSegment : String
  struggle : String
  whyItMatters : Option String
  workaround : Option String
  themeId : Option Uuid
  createdAt : Timestamp
  updatedAt : Timestamp
deriving DecidableEq, Repr, Inhabited

/-- A customer problem as it is read: with the name of its theme and the count of its evidence. -/
structure Opportunity extends OpportunityRecord where
  themeName : Option String
  evidenceCount : Int
deriving DecidableEq, Repr, Inhabited

structure OpportunityDraft where
  userSegment : String
  struggle : String
  whyItMatters : Option String
  workaround : Option String
  themeId : Option Uuid
deriving DecidableEq, Repr, Inhabited

def OpportunityRecord.ofDraft (draft : OpportunityDraft) (id : Uuid) (now : Timestamp) :
    OpportunityRecord where
  id := id
  userSegment := draft.userSegment
  struggle := draft.struggle
  whyItMatters := draft.whyItMatters
  workaround := draft.workaround
  themeId := draft.themeId
  createdAt := now
  updatedAt := now

/-- A category that groups opportunities, known by its normalized name. -/
structure Theme where
  id : Uuid
  name : String
  createdAt : Timestamp
deriving DecidableEq, Repr, Inhabited

structure Evidence where
  id : Uuid
  opportunityId : Uuid
  meetingId : Uuid
  quote : String
  context : Option String
  createdAt : Timestamp
deriving DecidableEq, Repr, Inhabited

structure EvidenceDraft where
  opportunityId : Uuid
  meetingId : Uuid
  quote : String
  context : Option String
deriving DecidableEq, Repr, Inhabited

/-- A context that says something; an empty one counts as absent. -/
def nonEmptyContext (context : Option String) : Option String :=
  context.filter fun c => !c.isEmpty

def Evidence.ofDraft (draft : EvidenceDraft) (id : Uuid) (now : Timestamp) : Evidence where
  id := id
  opportunityId := draft.opportunityId
  meetingId := draft.meetingId
  quote := draft.quote
  context := nonEmptyContext draft.context
  createdAt := now

/-- The short view of an opportunity that helps a provider to recognize it. -/
structure RosterEntry where
  opportunityId : Uuid
  struggle : String
  themeName : Option String
deriving DecidableEq, Repr, Inhabited

def Opportunity.rosterEntry (o : Opportunity) : RosterEntry := ⟨o.id, o.struggle, o.themeName⟩

end MeetingInsights
