import MeetingInsights.Pool.Basic
import MeetingInsights.Pool.Broadcast

/-! # Taking meetings in

Offering the meetings that a restart has left queued to a pool again, and taking one meeting through
a pool of its own.
-/

namespace MeetingInsights

namespace Pool

/-- The identifiers of the queued meetings, the oldest first. -/
def pending : Attempt (List Uuid) := (Call.idsByStatus .queued).attempt

def acceptedCount (outcomes : List EnqueueOutcome) : Nat := outcomes.count .enqueued

/-- Offers the queued meetings to a pool, the oldest first, and counts those it accepts. -/
def requeue (p : Pool) (ids : List Uuid) : Nat × Pool :=
  let (outcomes, p) := p.enqueueAll ids
  (acceptedCount outcomes, p)

/-- The next step of a worker that nothing holds up. A job that it holds is run to its end at
once. -/
def advance? (p : Pool) (w : Nat) (provider : Provider) (b : Backend) : Option (Pool × Backend) :=
  match p.workers[w]? with
  | some .starting => (p.announce? w).map (·, b)
  | some .idle => (p.takeNext? w).map (·, b)
  | some (.taken _) => (p.startJob? w).map (·, b)
  | some (.working id job) =>
    let (outcome, b) := job.run provider b
    some (p.setPhase w (.finished id outcome), b)
  | some (.finished ..) => (p.untrack? w).map (·, b)
  | some (.reporting ..) => (p.report? w).map (·, b)
  | some .leaving => (p.leave? w).map (·, b)
  | some .gone | some (.crashed _) | none => none

def advance (p : Pool) (w : Nat) (provider : Provider) (b : Backend) : (fuel : Nat) → Pool × Backend
  | 0 => (p, b)
  | fuel + 1 =>
    match p.advance? w provider b with
    | some (p, b) => p.advance w provider b fuel
    | none => (p, b)

/-- The steps of a worker from one meeting to the next, and at most those from its start to the
first. -/
def stepsPerMeeting : Nat := 5

def advanceAll (p : Pool) (provider : Provider) (b : Backend) : Pool × Backend :=
  (List.range p.workers.length).foldl
    (fun (p, b) w => p.advance w provider b (stepsPerMeeting * (p.buffer.length + 1)))
    (p, b)

end Pool

namespace Ingest

/-- What is told about a meeting that has been taken in. -/
structure Report where
  meeting : Meeting
  opportunitiesCreated : Nat
  evidenceAdded : Nat
deriving Inhabited

inductive Failure where
  /-- A step failed by itself. -/
  | store (e : Error)
  /-- The pool did not accept the meeting. -/
  | notEnqueued (meeting : Uuid) (outcome : Pool.EnqueueOutcome)
  /-- The job did not end in time. -/
  | notFinished (meeting : Uuid) (waitMs : Nat)
deriving Repr, Inhabited

def Failure.message : Failure → String
  | .store e => e.message
  | .notEnqueued id outcome => "meeting " ++ id.toText ++ " was not enqueued: " ++ outcome.name
  | .notFinished id ms =>
    "meeting " ++ id.toText ++ " did not finish within " ++ toString ms ++ "ms"

/-- Waits for the end of the job of a meeting and reports it. Without time to wait nobody has begun
to work when it is given up. -/
def await (provider : Provider) (p : Pool) (id : Uuid) (waitMs : Nat) (b : Backend) :
    Except Failure Report × Backend :=
  let (p, b) := if waitMs = 0 then (p, b) else p.advanceAll provider b
  match Pool.awaitJob id p.events 0 with
  | .error _ => (.error (.notFinished id waitMs), b)
  | .ok (created, evidence) =>
    match Attempt.run provider (Call.fetchMeeting id).attempt b with
    | (.error e, b) => (.error (.store e), b)
    | (.ok m, b) => (.ok ⟨m, created, evidence⟩, b)

/-- Takes a new meeting through a pool that can be made. -/
def run (provider : Provider) (settings : Pool.Settings) (draft : MeetingDraft) (waitMs : Nat)
    (b : Backend) : Except Failure Report × Backend :=
  match Attempt.run provider (Call.createMeeting draft).attempt b with
  | (.error e, b) => (.error (.store e), b)
  | (.ok m, b) =>
    match (Pool.new settings).start.enqueue m.id with
    | (.enqueued, p) => await provider p m.id waitMs b
    | (outcome, _) => (.error (.notEnqueued m.id outcome), b)

/-- Takes a new meeting in. If it is stored and then no pool can be made for it, that is a crash. -/
def run? (provider : Provider) (settings : Pool.Settings) (draft : MeetingDraft) (waitMs : Nat)
    (b : Backend) : Option (Except Failure Report × Backend) :=
  match (Attempt.run provider (Call.createMeeting draft).attempt b).1, Pool.create? settings with
  | .ok _, none => none
  | _, _ => some (run provider settings draft waitMs b)

end Ingest

end MeetingInsights
