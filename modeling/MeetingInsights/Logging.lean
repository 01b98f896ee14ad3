/-! # Logging

How log lines are written, and the names under which they tell their circumstances.
-/

namespace MeetingInsights.Logging

/-- The form of log lines, the file they go to instead of the console, and whether they are colored,
if that is not to be found out. -/
structure Settings where
  isJson : Bool
  file : Option String
  ansi : Option Bool
deriving DecidableEq, Repr, Inhabited

def sameUpToCase (a b : String) : Bool := a.toList.map Char.toLower == b.toList.map Char.toLower

def Settings.ofEnvironment (lookup : String → Option String) : Settings where
  isJson := (lookup "LOG_FORMAT").any fun v => sameUpToCase v "json"
  file := (lookup "LOG_FILE").filter fun v => !v.isEmpty
  ansi := (lookup "LOG_ANSI").map fun v => v == "true" || v == "1"

/-- What is logged unless something else is asked for. -/
def standardFilter : String := "noker=info,noker_jobs=info,noker_db=info,noker_inference=info"

def fieldNames : List String :=
  ["subsystem", "component", "op", "meeting_id", "opportunity_id", "theme", "worker_id", "status",
    "duration_ms", "result_count", "roster_size", "queue_depth", "error"]

end MeetingInsights.Logging
