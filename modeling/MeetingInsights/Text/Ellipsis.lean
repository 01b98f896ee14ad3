/-! # Shortened text -/

namespace MeetingInsights.Text

/-- Cuts a text of more than `limit` characters to its first `limit - 3` and three dots. -/
def truncateWithEllipsis (text : String) (limit : Nat) : String :=
  if text.length ≤ limit then text
  else String.ofList (text.toList.take (limit - 3)) ++ "..."

/-- The most characters of a failure message that are kept. -/
def failureMessageLimit : Nat := 200

def truncateFailureMessage (message : String) : String :=
  truncateWithEllipsis message failureMessageLimit

theorem truncateWithEllipsis_of_length_le {text : String} {limit : Nat}
    (h : text.length ≤ limit) : truncateWithEllipsis text limit = text := if_pos h

end MeetingInsights.Text
