import MeetingInsights.Backend
import MeetingInsights.Pool.Event
import MeetingInsights.Pool.Settings

/-! # The worker pool

A bounded queue of meetings with workers that take them from its head. The functions here are the
single steps of callers and workers. A step of a worker that is not due answers `none`.

The identifiers tracked by a pool are those that wait in its buffer and those that a worker holds; a
meeting that is tracked is not accepted again.
-/

namespace MeetingInsights

namespace Pool

inductive Phase where
  /-- Spawned, and not yet announced. -/
  | starting
  /-- Between two jobs. -/
  | idle
  /-- Holding a meeting whose job is still to be told to start. -/
  | taken (meeting : Uuid)
  /-- Holding a meeting, with the rest of its job. -/
  | working (meeting : Uuid) (job : Program Job.Outcome)
  /-- The job is over and its meeting is still tracked. -/
  | finished (meeting : Uuid) (outcome : Job.Outcome)
  /-- The meeting is no longer tracked and the end of its job is still to be told. -/
  | reporting (meeting : Uuid) (outcome : Job.Outcome)
  /-- On the way out. -/
  | leaving
  /-- Ended. -/
  | gone
  /-- Ended by a crash of the provider in the middle of a job. -/
  | crashed (meeting : Uuid)

def Phase.isOver : Phase → Bool
  | .gone | .crashed _ => true
  | _ => false

/-- The meeting that a worker holds: dequeued and not yet taken off the tracked ones. -/
def Phase.held? : Phase → Option Uuid
  | .taken meeting | .working meeting _ | .finished meeting _ | .crashed meeting => some meeting
  | _ => none

inductive Ticker where
  | absent
  | ticking
  | ended
deriving DecidableEq, Repr, Inhabited

/-- What a call to stop a pool waits for. -/
inductive Handle where
  | worker (index : Nat)
  | ticker
deriving DecidableEq, Repr, Inhabited

/-- Where a call to stop a pool stands. -/
inductive StopCall where
  /-- Not begun, or waiting for another call that shuts the pool down. -/
  | pending
  /-- The queue is closed. -/
  | closed
  /-- The workers are signalled. -/
  | signalled
  /-- Waiting for workers to end. -/
  | joining (handles : List Handle)
  /-- Returned to its caller. -/
  | returned
  /-- Dropped by its caller. -/
  | cancelled
deriving DecidableEq, Repr, Inhabited

def StopCall.isActive : StopCall → Bool
  | .closed | .signalled | .joining _ => true
  | .pending | .returned | .cancelled => false

end Pool

structure Pool where
  settings : Pool.Settings
  /-- Whether the queue takes new meetings. -/
  isOpen : Bool
  /-- The waiting meetings, the next one first. -/
  buffer : List Uuid
  /-- The meetings that are not accepted again. -/
  tracked : List Uuid
  /-- Whether the workers are told to stop. -/
  isSignalled : Bool
  /-- Whether a start has been tried. -/
  isStarted : Bool
  /-- Whether a stop has been completed. -/
  isStopped : Bool
  workers : List Pool.Phase
  ticker : Pool.Ticker
  /-- What the next call to stop has to wait for. -/
  handles : List Pool.Handle
  stops : List Pool.StopCall
  /-- All events so far. -/
  events : List Pool.Event

namespace Pool

def new (settings : Settings) : Pool where
  settings := settings.clamped
  isOpen := true
  buffer := []
  tracked := []
  isSignalled := false
  isStarted := false
  isStopped := false
  workers := []
  ticker := .absent
  handles := []
  stops := []
  events := []

instance : Inhabited Pool := ⟨new .standard⟩

/-- The most waiting meetings that a queue can be made for: three of 64 bits are not for counting. -/
def queueLimit : Nat := (Nat.pow 2 64 - 1) >>> 3

def canHold (n : Nat) : Bool := 0 < n && n ≤ queueLimit

/-- A new pool, if its queue can be made. Asking for one that cannot be made is a crash. -/
def create? (settings : Settings) : Option Pool :=
  if canHold settings.clamped.bufferSize then some (new settings) else none

def emit (p : Pool) (e : Event) : Pool := { p with events := p.events ++ [e] }

/-- The number of waiting meetings, as long as the queue is open. -/
def queueDepth (p : Pool) : Nat := if p.isOpen then p.buffer.length else 0

/-- The answer to a meeting that is offered to the queue. -/
inductive EnqueueOutcome where
  | enqueued
  | dropped
  | duplicate
  | closed
deriving DecidableEq, Repr, Inhabited

def EnqueueOutcome.name : EnqueueOutcome → String
  | .enqueued => "Enqueued"
  | .dropped => "Dropped"
  | .duplicate => "Duplicate"
  | .closed => "Closed"

def enqueue (p : Pool) (id : Uuid) : EnqueueOutcome × Pool :=
  if !p.isOpen then (.closed, p)
  else if id ∈ p.tracked then (.duplicate, p)
  else if p.buffer.length < p.settings.bufferSize then
    (.enqueued, { p with buffer := p.buffer ++ [id], tracked := id :: p.tracked })
  else (.dropped, p.emit (.jobDropped id))

def enqueueAll (p : Pool) : List Uuid → List EnqueueOutcome × Pool
  | [] => ([], p)
  | id :: ids =>
    let (outcome, p) := p.enqueue id
    let (outcomes, p) := p.enqueueAll ids
    (outcome :: outcomes, p)

def setPhase (p : Pool) (w : Nat) (phase : Phase) : Pool :=
  { p with workers := p.workers.set w phase }

def announce? (p : Pool) (w : Nat) : Option Pool :=
  match p.workers[w]? with
  | some .starting => some ((p.setPhase w .idle).emit (.workerStarted w))
  | _ => none

/-- A worker looks at the signal and then at the queue. A signalled one is on its way out, as is one
whose queue is closed and empty; else it takes the next meeting. With nothing to take it waits. -/
def takeNext? (p : Pool) (w : Nat) : Option Pool :=
  match p.workers[w]? with
  | some .idle =>
    if p.isSignalled then some (p.setPhase w .leaving)
    else
      match p.buffer with
      | id :: rest => some ({ p with buffer := rest }.setPhase w (.taken id))
      | [] => if p.isOpen then none else some (p.setPhase w .leaving)
  | _ => none

/-- A worker tells that it starts the job of the meeting that it has taken. -/
def startJob? (p : Pool) (w : Nat) : Option Pool :=
  match p.workers[w]? with
  | some (.taken id) =>
    some ((p.setPhase w (.working id (Job.process id))).emit (.jobStarted id w))
  | _ => none

def nextCall? (p : Pool) (w : Nat) : Option Call :=
  match p.workers[w]? with
  | some (.working _ (.call c _)) => some c
  | _ => none

/-- A worker's job makes its next call, or is over. -/
def work? (p : Pool) (w : Nat) (provider : Provider) (b : Backend) : Option (Pool × Backend) :=
  match p.workers[w]? with
  | some (.working id (.call c next)) =>
    let (r, b) := b.answer provider c
    some (p.setPhase w (.working id (next r)), b)
  | some (.working id (.done outcome)) => some (p.setPhase w (.finished id outcome), b)
  | _ => none

def crash? (p : Pool) (w : Nat) : Option Pool :=
  match p.workers[w]? with
  | some (.working id _) => some (p.setPhase w (.crashed id))
  | _ => none

def untrack? (p : Pool) (w : Nat) : Option Pool :=
  match p.workers[w]? with
  | some (.finished id outcome) =>
    some ({ p with tracked := p.tracked.filter fun t => t ≠ id }.setPhase w (.reporting id outcome))
  | _ => none

def report? (p : Pool) (w : Nat) : Option Pool :=
  match p.workers[w]? with
  | some (.reporting id outcome) => some ((p.setPhase w .idle).emit (.ofOutcome id outcome))
  | _ => none

def leave? (p : Pool) (w : Nat) : Option Pool :=
  match p.workers[w]? with
  | some .leaving => some ((p.setPhase w .gone).emit (.workerStopped w))
  | _ => none

def isOver (p : Pool) : Handle → Bool
  | .worker w => ((p.workers[w]?).map Phase.isOver).getD true
  | .ticker => p.ticker != .ticking

/-- The ticker ends once it sees the signal. -/
def endTicker? (p : Pool) : Option Pool :=
  if p.ticker = .ticking ∧ p.isSignalled then some { p with ticker := .ended } else none

/-- Marks the pool as started; the flag tells whether it was not before. -/
def markStarted (p : Pool) : Bool × Pool := (!p.isStarted, { p with isStarted := true })

/-- Whether a pool that is marked as started may spawn its workers. -/
def maySpawn (p : Pool) : Bool := !p.isStopped && !p.isSignalled

def spawn (p : Pool) : Pool :=
  let n := p.settings.workerCount
  { p with
    workers := p.workers ++ List.replicate n .starting
    ticker := .ticking
    handles := p.handles ++ (List.range n).map (fun i => .worker (p.workers.length + i)) ++ [.ticker] }

/-- Starts the pool, unless it has been started or stopped before. -/
def start (p : Pool) : Pool :=
  let (first, p) := p.markStarted
  if first && p.maySpawn then p.spawn else p

def close (p : Pool) : Pool := { p with isOpen := false }

/-- Signals the workers. Nothing is kept of a signal that nobody listens for. -/
def signal (p : Pool) : Pool := if p.workers.isEmpty then p else { p with isSignalled := true }

def setStop (p : Pool) (k : Nat) (call : StopCall) : Pool := { p with stops := p.stops.set k call }

/-- A call to stop makes its next step. One that is pending returns once the pool is stopped, and
shuts the pool down itself when no other call is at it. -/
def stopStep? (p : Pool) (k : Nat) : Option Pool :=
  match p.stops[k]? with
  | some .pending =>
    if p.isStopped then some (p.setStop k .returned)
    else if p.stops.any StopCall.isActive then none
    else some (p.close.setStop k .closed)
  | some .closed => some (p.signal.setStop k .signalled)
  | some .signalled => some ({ p with handles := [] }.setStop k (.joining p.handles))
  | some (.joining handles) =>
    if handles.all p.isOver then some ({ p with isStopped := true }.setStop k .returned) else none
  | _ => none

/-- The caller drops a call to stop that has not returned. -/
def cancelStop? (p : Pool) (k : Nat) : Option Pool :=
  match p.stops[k]? with
  | some .returned | some .cancelled | none => none
  | some _ => some (p.setStop k .cancelled)

/-- Takes all steps that a call to stop can take at once. -/
def runStop (p : Pool) (k : Nat) : (fuel : Nat) → Pool
  | 0 => p
  | fuel + 1 =>
    match p.stopStep? k with
    | some p => p.runStop k fuel
    | none => p

/-- The most steps that a call to stop can take at once. -/
def stopSteps : Nat := 4

/-- A new call to stop, as far as it gets at once. -/
def stop (p : Pool) : Pool :=
  { p with stops := p.stops ++ [StopCall.pending] }.runStop p.stops.length stopSteps

def hasReturned (p : Pool) (k : Nat) : Bool :=
  match p.stops[k]? with
  | some .returned => true
  | _ => false

theorem enqueue_of_closed {p : Pool} {id : Uuid} (h : p.isOpen = false) :
    p.enqueue id = (.closed, p) := by simp [enqueue, h]

theorem enqueue_of_mem_tracked {p : Pool} {id : Uuid} (ho : p.isOpen = true)
    (h : id ∈ p.tracked) : p.enqueue id = (.duplicate, p) := by simp [enqueue, ho, h]

@[simp] theorem buffer_emit (p : Pool) (e : Event) : (p.emit e).buffer = p.buffer := rfl

@[simp] theorem tracked_emit (p : Pool) (e : Event) : (p.emit e).tracked = p.tracked := rfl

@[simp] theorem events_emit (p : Pool) (e : Event) : (p.emit e).events = p.events ++ [e] := rfl

end Pool

end MeetingInsights
