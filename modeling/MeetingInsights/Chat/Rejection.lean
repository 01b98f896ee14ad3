import MeetingInsights.Error

/-! # Rejected questions

Why an endpoint refuses a question, by the status of its answer and the kind of its complaint.
-/

namespace MeetingInsights.Chat

inductive Rejection where
  | authentication
  | rateLimit
  | modelNotFound
  | contextLength
  | server
  | unknown
deriving DecidableEq, Repr, Inhabited

namespace Rejection

def missingModelKind : String := "model_not_found"

/-- What the kind of a complaint about too long a question contains. -/
def contextLengthMark : String := "context_length"

def containsChars (mark : List Char) : List Char → Bool
  | [] => mark.isEmpty
  | c :: cs => mark.isPrefixOf (c :: cs) || containsChars mark cs

def ofAnswer (status : Nat) (kind : String) : Rejection :=
  if status = 401 then .authentication
  else if status = 429 then .rateLimit
  else if status = 404 ∨ kind = missingModelKind then .modelNotFound
  else if status = 400 ∧ containsChars contextLengthMark.toList kind.toList then .contextLength
  else if 500 ≤ status ∧ status ≤ 599 then .server
  else .unknown

/-- Whether the same question may be answered later. -/
def isTransient : Rejection → Bool
  | .rateLimit | .server => true
  | _ => false

def detail : Rejection → String
  | .authentication => "authentication failed"
  | .rateLimit => "rate limit exceeded"
  | .modelNotFound => "model not found"
  | .contextLength => "context too long"
  | .server => "server error"
  | .unknown => "request rejected"

def toError (r : Rejection) (status : Nat) (message : String) : Error :=
  .extraction ("openai error " ++ toString status ++ " (" ++ r.detail ++ "): " ++ message)

end Rejection

end MeetingInsights.Chat
