import MeetingInsights.Merge
import MeetingInsights.Text.Ellipsis

/-! # Jobs

How the status of a meeting advances, and the one job there is: to take a queued meeting through the
provider and the merge to its terminal status.
-/

namespace MeetingInsights

namespace Progress

def begin (id : Uuid) : Attempt Unit := (Call.updateStatus id .processing none).attempt

def complete (id : Uuid) : Attempt Unit := (Call.updateStatus id .done none).attempt

/-- Marks a meeting as failed, with the message cut to the length that is kept. -/
def fail (id : Uuid) (message : String) : Attempt Unit :=
  (Call.updateStatus id .failed (some (Text.truncateFailureMessage message))).attempt

end Progress

namespace Job

inductive Outcome where
  /-- The findings are in the store. -/
  | done (summary : Merge.Summary)
  /-- A step failed, with the full message. -/
  | failed (message : String)
  /-- The meeting had reached a terminal status before. -/
  | skipped
deriving DecidableEq, Repr, Inhabited

inductive Stage where
  | loading
  | extraction
  | saving
deriving DecidableEq, Repr, Inhabited

def Stage.label : Stage → String
  | .loading => "Failed to load meeting"
  | .extraction => "AI extraction failed"
  | .saving => "Failed to save opportunities"

def Stage.failure (stage : Stage) (e : Error) : String := stage.label ++ ": " ++ e.message

def load (id : Uuid) : Attempt (Meeting × List RosterEntry) := do
  let meeting ← (Call.fetchMeeting id).attempt
  let roster ← Call.roster.attempt
  return (meeting, roster)

/-- Ends a job after a failure, which is recorded with the meeting if that is possible. -/
def giveUp (id : Uuid) (stage : Stage) (e : Error) : Program Outcome := do
  let _ ← ExceptT.run (Progress.fail id (stage.failure e))
  return .failed (stage.failure e)

def finish (id : Uuid) (summary : Merge.Summary) : Program Outcome := do
  let _ ← ExceptT.run (Progress.complete id)
  return .done summary

def save (id : Uuid) (findings : List Finding) : Program Outcome := do
  match ← ExceptT.run (Merge.apply id findings) with
  | .ok summary => finish id summary
  | .error e => giveUp id .saving e

/-- Puts the meeting before the provider and applies what it finds. -/
def consult (id : Uuid) (meeting : Meeting) (roster : List RosterEntry) : Program Outcome := do
  match ← ExceptT.run (Call.extract meeting roster).attempt with
  | .ok findings => save id findings
  | .error e => giveUp id .extraction e

def advance (id : Uuid) : Program Outcome := do
  match ← ExceptT.run (load id) with
  | .ok (meeting, roster) => consult id meeting roster
  | .error e => giveUp id .loading e

def isRefusal : Except Error Unit → Bool
  | .error (.invalidTransition _) => true
  | _ => false

/-- The job of a meeting. One in a terminal status is skipped; any other failure to mark it as being
processed is left to the steps after it. -/
def process (id : Uuid) : Program Outcome := do
  let begun ← ExceptT.run (Progress.begin id)
  if isRefusal begun then return .skipped else advance id

end Job

end MeetingInsights
