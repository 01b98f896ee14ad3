import MeetingInsights.Job

/-! # Events of a worker pool -/

namespace MeetingInsights.Pool

inductive Event where
  | jobDropped (meeting : Uuid)
  | jobStarted (meeting : Uuid) (worker : Nat)
  | jobCompleted (meeting : Uuid) (created evidence : Nat)
  | jobFailed (meeting : Uuid) (message : String)
  | jobSkipped (meeting : Uuid)
  | workerStarted (worker : Nat)
  | workerStopped (worker : Nat)
deriving DecidableEq, Repr, Inhabited

namespace Event

def ofOutcome (meeting : Uuid) : Job.Outcome → Event
  | .done summary => .jobCompleted meeting summary.created.length summary.evidenceAdded
  | .failed message => .jobFailed meeting message
  | .skipped => .jobSkipped meeting

/-- What an event tells one who waits for the end of a job: the counts of new opportunities and of
evidence, if it is the end of that job. -/
def counts? (meeting : Uuid) : Event → Option (Nat × Nat)
  | .jobCompleted id created evidence => if id = meeting then some (created, evidence) else none
  | .jobFailed id _ => if id = meeting then some (0, 0) else none
  | .jobSkipped id => if id = meeting then some (0, 0) else none
  | _ => none

end Event

end MeetingInsights.Pool
