import MeetingInsights.Catalog
import MeetingInsights.Error
import MeetingInsights.Meeting
import MeetingInsights.Theme.Name

/-! # The store

Four tables of rows: meetings, opportunities, themes and evidence. Each operation is a function of
the whole store; one that fails returns no store, so a failure changes nothing.
-/

namespace MeetingInsights

/-- The meetings in the order of their creation, each under an identifier of its own. -/
structure MeetingTable where
  rows : List Meeting
  nodup : (rows.map Meeting.id).Nodup

namespace MeetingTable

def empty : MeetingTable := ⟨[], List.nodup_nil⟩

instance : Inhabited MeetingTable := ⟨empty⟩

def find? (t : MeetingTable) (id : Uuid) : Option Meeting := t.rows.find? fun m => m.id = id

/-- The row that stands where `r` stood once `m` has replaced the meeting of its identifier. -/
def replaced (m r : Meeting) : Meeting := if r.id = m.id then m else r

theorem id_replaced (m r : Meeting) : (replaced m r).id = r.id := by
  unfold replaced
  split <;> simp_all

theorem map_id_replaced (m : Meeting) (rows : List Meeting) :
    (rows.map (replaced m)).map Meeting.id = rows.map Meeting.id := by
  simp [Function.comp_def, id_replaced]

def replace (t : MeetingTable) (m : Meeting) : MeetingTable where
  rows := t.rows.map (replaced m)
  nodup := by rw [map_id_replaced]; exact t.nodup

def insert (t : MeetingTable) (m : Meeting) : MeetingTable :=
  if h : m.id ∈ t.rows.map Meeting.id then t.replace m
  else
    { rows := t.rows ++ [m]
      nodup := by
        rw [List.map_append, List.nodup_append]
        refine ⟨t.nodup, by simp, fun a ha b hb hab => h ?_⟩
        have hb : b = m.id := by simpa using hb
        exact hb ▸ hab ▸ ha }

theorem rows_insert_of_notMem {t : MeetingTable} {m : Meeting}
    (h : m.id ∉ t.rows.map Meeting.id) : (t.insert m).rows = t.rows ++ [m] := by
  rw [insert, dif_neg h]

end MeetingTable

/-- All that is kept. Opportunities, themes and evidence stand in the order of their creation. -/
structure Store where
  meetings : MeetingTable
  opportunities : List OpportunityRecord
  themes : List Theme
  evidence : List Evidence
deriving Inhabited

namespace Store

def empty : Store := ⟨.empty, [], [], []⟩

def createMeeting (s : Store) (draft : MeetingDraft) (id : Uuid) (now : Timestamp) :
    Meeting × Store :=
  let m := Meeting.ofDraft draft id now
  (m, { s with meetings := s.meetings.insert m })

def fetchMeeting (s : Store) (id : Uuid) : Except Error Meeting :=
  match s.meetings.find? id with
  | some m => .ok m
  | none => .error (.meetingNotFound id)

/-- The refusal to move a meeting on from a terminal status. -/
def refusedTransition (id : Uuid) (current wanted : Status) : Error :=
  .invalidTransition
    ("meeting " ++ id.toText ++ " is " ++ current.name ++ ", cannot move to " ++ wanted.name)

/-- Moves a meeting to a status, with the message of a failure or without one. A meeting in a
terminal status stays as it is. -/
def updateStatus (s : Store) (id : Uuid) (status : Status) (message : Option String)
    (now : Timestamp) : Except Error Store :=
  match s.meetings.find? id with
  | none => .error (.meetingNotFound id)
  | some m =>
    if m.status.isTerminal then .error (refusedTransition id m.status status)
    else .ok { s with meetings := s.meetings.replace (m.withStatus status message now) }

/-- The order of age: by creation, and by identifier where two were created at once. -/
def olderOrEqual (a b : Meeting) : Bool :=
  if a.createdAt = b.createdAt then a.id.bits.toNat ≤ b.id.bits.toNat
  else a.createdAt.le b.createdAt

/-- The meetings in a status, the oldest first. -/
def idsByStatus (s : Store) (status : Status) : List Uuid :=
  ((s.meetings.rows.filter fun m => m.status = status).mergeSort olderOrEqual).map Meeting.id

def meetingStatus? (s : Store) (id : Uuid) : Option (Status × Option String) :=
  (s.meetings.find? id).map fun m => (m.status, m.errorMessage)

def findTheme? (s : Store) (name : String) : Option Theme := s.themes.find? fun t => t.name = name

def themeById? (s : Store) (id : Uuid) : Option Theme := s.themes.find? fun t => t.id = id

def createTheme (s : Store) (name : String) (id : Uuid) (now : Timestamp) :
    Except Error (Theme × Store) :=
  if (s.findTheme? name).isSome then .error (.conflict ("theme '" ++ name ++ "' already exists"))
  else
    let t : Theme := ⟨id, name, now⟩
    .ok (t, { s with themes := s.themes ++ [t] })

def themesByName (s : Store) : List Theme := s.themes.mergeSort fun a b => !decide (b.name < a.name)

def evidenceFor (s : Store) (id : Uuid) : List Evidence :=
  s.evidence.filter fun e => e.opportunityId = id

def themeNameOf (s : Store) (o : OpportunityRecord) : Option String :=
  (o.themeId.bind s.themeById?).map Theme.name

/-- An opportunity with the name of its theme and the count of its evidence. -/
def describe (s : Store) (o : OpportunityRecord) : Opportunity :=
  { o with themeName := s.themeNameOf o, evidenceCount := (s.evidenceFor o.id).length }

def describedOpportunities (s : Store) : List Opportunity := s.opportunities.map s.describe

def opportunityRecord? (s : Store) (id : Uuid) : Option OpportunityRecord :=
  s.opportunities.find? fun o => o.id = id

def fetchOpportunity (s : Store) (id : Uuid) : Except Error Opportunity :=
  match s.opportunityRecord? id with
  | some o => .ok (s.describe o)
  | none => .error (.opportunityNotFound id)

def acceptsTheme (s : Store) : Option Uuid → Bool
  | some id => (s.themeById? id).isSome
  | none => true

/-- Adds an opportunity, whose theme must exist. -/
def createOpportunity (s : Store) (draft : OpportunityDraft) (id : Uuid) (now : Timestamp) :
    Except Error Store :=
  if s.acceptsTheme draft.themeId then
    .ok { s with opportunities := s.opportunities ++ [OpportunityRecord.ofDraft draft id now] }
  else .error (.notFound ("theme " ++ (draft.themeId.map Uuid.toText).getD ""))

/-- The roster: the short view of every opportunity. -/
def roster (s : Store) : List RosterEntry := s.describedOpportunities.map Opportunity.rosterEntry

/-- Adds evidence for an opportunity from a meeting, both of which must exist. -/
def addEvidence (s : Store) (draft : EvidenceDraft) (id : Uuid) (now : Timestamp) :
    Except Error Store :=
  if (s.opportunityRecord? draft.opportunityId).isNone then
    .error (.opportunityNotFound draft.opportunityId)
  else if (s.meetings.find? draft.meetingId).isNone then
    .error (.meetingNotFound draft.meetingId)
  else .ok { s with evidence := s.evidence ++ [Evidence.ofDraft draft id now] }

@[simp] theorem rows_empty : empty.meetings.rows = [] := rfl

theorem updateStatus_eq_error_iff {s : Store} {id : Uuid} {status : Status}
    {message : Option String} {now : Timestamp} :
    (∃ e, s.updateStatus id status message now = .error e) ↔
      ∀ m, s.meetings.find? id = some m → m.status.isTerminal = true := by
  unfold updateStatus
  split
  · simp_all
  · split <;> simp_all

theorem roster_length (s : Store) : s.roster.length = s.opportunities.length := by
  simp [roster, describedOpportunities]

theorem ids_roster (s : Store) :
    s.roster.map RosterEntry.opportunityId = s.opportunities.map OpportunityRecord.id := by
  simp [roster, describedOpportunities, describe, Opportunity.rosterEntry, Function.comp_def]

end Store

end MeetingInsights
