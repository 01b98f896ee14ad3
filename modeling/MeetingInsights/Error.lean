import MeetingInsights.Uuid

/-! # Errors

What can go wrong, by its kind, and how it is told.
-/

namespace MeetingInsights

/-- A failure. Kinds that concern one row carry its identifier and the others a description. -/
inductive Error where
  | database (detail : String)
  | notFound (what : String)
  | meetingNotFound (id : Uuid)
  | opportunityNotFound (id : Uuid)
  | conflict (detail : String)
  | invalidTransition (detail : String)
  | invalidReference (detail : String)
  | extraction (detail : String)
  | serialization (detail : String)
  | config (detail : String)
  | request (detail : String)
  | internal (detail : String)
  | io (detail : String)
deriving DecidableEq, Repr, Inhabited

namespace Error

def message : Error → String
  | .database d => "Database error: " ++ d
  | .notFound d => "Not found: " ++ d
  | .meetingNotFound id => "Meeting not found: " ++ id.toText
  | .opportunityNotFound id => "Opportunity not found: " ++ id.toText
  | .conflict d => "Conflict: " ++ d
  | .invalidTransition d => "Invalid status transition: " ++ d
  | .invalidReference d => "Invalid opportunity reference: " ++ d
  | .extraction d => "Extraction error: " ++ d
  | .serialization d => "Serialization error: " ++ d
  | .config d => "Configuration error: " ++ d
  | .request d => "Request error: " ++ d
  | .internal d => "Internal error: " ++ d
  | .io d => "I/O error: " ++ d

end Error

end MeetingInsights
