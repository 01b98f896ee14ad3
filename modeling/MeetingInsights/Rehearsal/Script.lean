import MeetingInsights.Backend
import MeetingInsights.Wire.Envelope

/-! # Scripted providers

What a provider is made to say about a meeting when a run is rehearsed.
-/

namespace MeetingInsights.Rehearsal

inductive Reply where
  /-- The provider crashes. -/
  | crash
  /-- The provider fails. -/
  | failure (e : Error)
  /-- A language model says this. -/
  | content (text : String)
  /-- The first meeting proposes one problem and every later one matches it. -/
  | converge
  /-- The provider finds just this. -/
  | findings (fs : List Finding)
deriving Inhabited

namespace Reply

def wholeMeeting (m : Meeting) : Quote := ⟨m.rawNotes, some m.title⟩

def firstProblem (m : Meeting) : Proposal where
  userSegment := "Finance admins"
  struggle := "CSV export is unreliable"
  whyItMatters := none
  workaround := none
  theme := some "Export Issues"
  quotes := [wholeMeeting m]

def converged (m : Meeting) : List RosterEntry → List Finding
  | [] => [.proposed (firstProblem m)]
  | r :: _ => [.matched ⟨some r.opportunityId.toText, [wholeMeeting m]⟩]

/-- The answer about a meeting, which a crash does not give. -/
def answer? (m : Meeting) (roster : List RosterEntry) : Reply → Option (Except Error (List Finding))
  | .crash => none
  | .failure e => some (.error e)
  | .content text => some (Envelope.read text)
  | .converge => some (.ok (converged m roster))
  | .findings fs => some (.ok fs)

end Reply

/-- A prepared answer, and whether it waits until it is released. -/
structure Script where
  reply : Reply
  isGated : Bool
deriving Inhabited

namespace Script

def silent : Script := ⟨.findings [], false⟩

/-- The script of a meeting: its own, or else the one for all others. The later of two scripts for
the same meeting stands first. -/
def lookup (scripts : List (Option Uuid × Script)) (id : Uuid) : Script :=
  ((List.lookup (some id) scripts).or (List.lookup none scripts)).getD silent

end Script

end MeetingInsights.Rehearsal
