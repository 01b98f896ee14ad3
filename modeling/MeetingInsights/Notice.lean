/-! # Notices

What is worth the attention of whoever runs the program, though nothing has failed.
-/

namespace MeetingInsights

/-- A warning: its text, and the circumstances by name. -/
structure Notice where
  text : String
  details : List (String × String)
deriving DecidableEq, Repr, Inhabited

end MeetingInsights
