/-! # Findings

What a provider finds in a meeting: evidence for a problem that is already known, or a problem that
is not, each with quotes from the notes.
-/

namespace MeetingInsights

structure Quote where
  text : String
  context : Option String
deriving DecidableEq, Repr, Inhabited

/-- Evidence for a known opportunity. The reference is kept as the provider sent it and read only
when it is applied. -/
structure Match where
  reference : Option String
  quotes : List Quote
deriving DecidableEq, Repr, Inhabited

/-- A problem that is not known yet. -/
structure Proposal where
  userSegment : String
  struggle : String
  whyItMatters : Option String
  workaround : Option String
  theme : Option String
  quotes : List Quote
deriving DecidableEq, Repr, Inhabited

inductive Finding where
  | matched (m : Match)
  | proposed (p : Proposal)
deriving DecidableEq, Repr, Inhabited

namespace Finding

def kind : Finding → String
  | .matched _ => "match"
  | .proposed _ => "new"

def quotes : Finding → List Quote
  | .matched m => m.quotes
  | .proposed p => p.quotes

end Finding

end MeetingInsights
