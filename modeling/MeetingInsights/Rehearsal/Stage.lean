import MeetingInsights.Ingest
import MeetingInsights.Rehearsal.Script

/-! # The stage of a rehearsal

Pools over one backend whose provider follows scripts. Only one worker moves at a time: it goes on
until it has to wait for a meeting or for a release, and workers that need not wait take turns in the
order in which they became ready.
-/

namespace MeetingInsights.Rehearsal

structure Seat where
  pool : Nat
  worker : Nat
deriving DecidableEq, Repr, Inhabited

/-- A worker that waits to be released. -/
structure Hold where
  seat : Seat
  meeting : Uuid
  isReleased : Bool
deriving Inhabited

/-- A pool with its idle workers in the order in which they get the next meeting. -/
structure Crew where
  pool : Pool
  line : List Nat
deriving Inhabited

structure Stage where
  backend : Backend
  scripts : List (Option Uuid × Script)
  /-- Releases given in advance, one item each. -/
  permits : List Uuid
  crews : List Crew
  /-- The pool that steps are about. -/
  current : Option Nat
  /-- The workers that need not wait. -/
  ready : List Seat
  holds : List Hold
  /-- The calls to stop a pool, in order, by pool and by call. -/
  stops : List (Nat × Nat)
  /-- How many events of the current pool have been shown. -/
  shown : Nat
deriving Inhabited

namespace Stage

/-- The identifiers of the rows of a rehearsal: a digit for the table and a count from one. -/
def firstId (table : Nat) : Uuid :=
  ⟨BitVec.ofNat 128 (table <<< 124 + 0x7 <<< 76 + 0x8 <<< 60 + 1)⟩

def firstSupply : Supply := ⟨firstId 0xa, firstId 0xb, firstId 0xc, firstId 0xd⟩

def empty (now : Timestamp) : Stage where
  backend := ⟨.empty, firstSupply, now, [], []⟩
  scripts := []
  permits := []
  crews := []
  current := none
  ready := []
  holds := []
  stops := []
  shown := 0

def provider (s : Stage) : Provider := fun m roster =>
  match (Script.lookup s.scripts m.id).reply.answer? m roster with
  | some r => r
  | none => .error (.internal "the provider crashed")

def perform (s : Stage) (c : Call) : c.Answer × Stage :=
  let (r, backend) := s.backend.perform s.provider c
  (r, { s with backend })

def run {α : Type} (s : Stage) (p : Program α) : α × Stage :=
  let (a, backend) := p.run s.provider s.backend
  (a, { s with backend })

def attempt {α : Type} (s : Stage) (t : Attempt α) : Except Error α × Stage := s.run (ExceptT.run t)

def addFault (s : Stage) (f : Fault) : Stage :=
  { s with backend.faults := s.backend.faults ++ [f] }

def setScript (s : Stage) (meeting : Option Uuid) (script : Script) : Stage :=
  { s with scripts := (meeting, script) :: s.scripts }

def crew (s : Stage) (k : Nat) : Crew := s.crews.getD k default

def setCrew (s : Stage) (k : Nat) (c : Crew) : Stage := { s with crews := s.crews.set k c }

def setPool (s : Stage) (k : Nat) (p : Pool) : Stage := s.setCrew k { s.crew k with pool := p }

/-- Puts a worker last among those that need not wait. -/
def wake (s : Stage) (seat : Seat) : Stage :=
  if seat ∈ s.ready then s else { s with ready := s.ready ++ [seat] }

def wakeFirst (s : Stage) (k : Nat) : Stage :=
  match (s.crew k).line with
  | w :: _ => s.wake ⟨k, w⟩
  | [] => s

def wakeAll (s : Stage) (k : Nat) : Stage :=
  (s.crew k).line.foldl (fun s w => s.wake ⟨k, w⟩) s

/-- A worker steps out of the line; the one that is first then need not wait. -/
def stepOut (s : Stage) (k w : Nat) : Stage :=
  let c := s.crew k
  (s.setCrew k { c with line := c.line.erase w }).wakeFirst k

def stepIn (s : Stage) (k w : Nat) : Stage :=
  let c := s.crew k
  if w ∈ c.line then s else s.setCrew k { c with line := c.line ++ [w] }

/-- An idle worker leaves when it is signalled, takes a meeting when it is its turn, and waits in line
otherwise. -/
def takeTurn (s : Stage) (k w : Nat) : Stage × Bool :=
  let c := s.crew k
  if c.pool.isSignalled || c.line.head?.all (· == w) then
    match c.pool.takeNext? w with
    | some p => ((s.setPool k p).stepOut k w, true)
    | none => (s.stepIn k w, false)
  else (s.stepIn k w, false)

/-- A worker's question to the provider is answered by a script. -/
def reply (s : Stage) (k w : Nat) (m : Meeting) (roster : List RosterEntry) (r : Reply) :
    Stage × Bool :=
  let p := (s.crew k).pool
  match r.answer? m roster with
  | some answer =>
    match p.work? w (fun _ _ => answer) s.backend with
    | some (p, backend) => ({ s with backend }.setPool k p, true)
    | none => (s, false)
  | none =>
    let backend := (s.backend.perform (fun _ _ => .ok []) (.extract m roster)).2
    ({ s with backend }.setPool k ((p.crash? w).getD p), false)

/-- A worker puts a question to the provider. It may have to wait for a release first, and is
answered by the script that there is then. -/
def consult (s : Stage) (k w : Nat) (m : Meeting) (roster : List RosterEntry) : Stage × Bool :=
  let seat : Seat := ⟨k, w⟩
  let script := Script.lookup s.scripts m.id
  match s.holds.find? fun h => h.seat = seat with
  | some h =>
    if h.isReleased then
      { s with holds := s.holds.filter fun h => h.seat ≠ seat }.reply k w m roster script.reply
    else (s, false)
  | none =>
    if !script.isGated then s.reply k w m roster script.reply
    else if m.id ∈ s.permits then
      { s with permits := s.permits.erase m.id }.reply k w m roster script.reply
    else ({ s with holds := s.holds ++ [⟨seat, m.id, false⟩] }, false)

/-- Runs a program up to its next question to the provider, or to its end. -/
def runToQuestion {α : Type} : Program α → Backend → Program α × Backend
  | .done a, b => (.done a, b)
  | .call c next, b =>
    if c.operation?.isNone then (.call c next, b)
    else
      let (r, b) := b.answer (fun _ _ => .ok []) c
      runToQuestion (next r) b

/-- One step of a worker; the flag tells whether it can go on. -/
def workerStep (s : Stage) (k w : Nat) : Stage × Bool :=
  let p := (s.crew k).pool
  let go (p? : Option Pool) : Stage × Bool :=
    match p? with
    | some p => (s.setPool k p, true)
    | none => (s, false)
  match p.workers[w]? with
  | some .starting => go (p.announce? w)
  | some .idle => s.takeTurn k w
  | some (.taken _) => go (p.startJob? w)
  | some (.working _ (.call (.extract m roster) _)) => s.consult k w m roster
  | some (.working id (.call c next)) =>
    let (job, backend) := runToQuestion (.call c next) s.backend
    ({ s with backend }.setPool k (p.setPhase w (.working id job)), true)
  | some (.working id (.done outcome)) => go (some (p.setPhase w (.finished id outcome)))
  | some (.finished _ _) => go (p.untrack? w)
  | some (.reporting _ _) => go (p.report? w)
  | some .leaving => go (p.leave? w)
  | some .gone | some (.crashed _) | none => (s, false)

def turn (s : Stage) (seat : Seat) : (fuel : Nat) → Stage
  | 0 => s
  | fuel + 1 =>
    match s.workerStep seat.pool seat.worker with
    | (s, true) => s.turn seat fuel
    | (s, false) => s

/-- The most steps that a worker can take without waiting: a few for each of the waiting jobs and for
the one that it holds. -/
def turnFuel (s : Stage) (k : Nat) : Nat := 9 * ((s.crew k).pool.buffer.length + 2)

def takeTurns (s : Stage) : (fuel : Nat) → Stage
  | 0 => s
  | fuel + 1 =>
    match s.ready with
    | [] => s
    | seat :: rest => ({ s with ready := rest }.turn seat (s.turnFuel seat.pool)).takeTurns fuel

/-- Lets the tickers see the signals, and the calls to stop take the steps that are due. -/
def joinStops (s : Stage) : Stage :=
  let settlePool (p : Pool) : Pool :=
    let p := p.endTicker?.getD p
    (List.range p.stops.length).foldl (fun p k => p.runStop k Pool.stopSteps) p
  { s with crews := s.crews.map fun c => { c with pool := settlePool c.pool } }

def settle (s : Stage) : Stage :=
  let waiting := s.crews.foldl (fun n c => n + c.pool.buffer.length + c.pool.workers.length + 2) 0
  (s.takeTurns (4 * (waiting + s.ready.length))).joinStops

def currentPool (s : Stage) : Pool := (s.current.map fun k => (s.crew k).pool).getD default

def addPool (s : Stage) (settings : Pool.Settings) : Nat × Stage :=
  (s.crews.length, { s with crews := s.crews ++ [⟨Pool.new settings, []⟩] })

def startPool (s : Stage) (k : Nat) : Stage :=
  let old := (s.crew k).pool
  let p := old.start
  (List.range' old.workers.length (p.workers.length - old.workers.length)).foldl
    (fun s w => s.wake ⟨k, w⟩) (s.setPool k p)

def offer (s : Stage) (k : Nat) (ids : List Uuid) : List Pool.EnqueueOutcome × Stage :=
  let (outcomes, p) := (s.crew k).pool.enqueueAll ids
  let s := s.setPool k p
  (outcomes, if .enqueued ∈ outcomes then s.wakeFirst k else s)

/-- Tells the workers of a pool that nobody uses any more to stop. -/
def abandon (s : Stage) (k : Nat) : Stage := (s.setPool k (s.crew k).pool.signal).wakeAll k

def stopPool (s : Stage) (k : Nat) : Stage :=
  let p := (s.crew k).pool
  ({ s with stops := s.stops ++ [(k, p.stops.length)] }.setPool k p.stop).wakeAll k

def stopped (s : Stage) : List Bool := s.stops.map fun (k, i) => (s.crew k).pool.hasReturned i

def release (s : Stage) (meeting : Uuid) : Stage :=
  match s.holds.find? fun h => h.meeting = meeting ∧ h.isReleased = false with
  | some h =>
    let holds := s.holds.map fun (g : Hold) =>
      if g.seat = h.seat then { g with isReleased := true } else g
    { s with holds }.wake h.seat
  | none => { s with permits := meeting :: s.permits }

def openPool (s : Stage) (settings : Pool.Settings) : Stage :=
  let s := match s.current with
    | some k => s.abandon k
    | none => s
  let (k, s) := s.addPool settings
  { s with current := some k, shown := 0 }

/-- What a subscriber finds of the events of the current pool since it looked last. -/
def newEvents (s : Stage) : List (Pool.Received Pool.Event) × Stage :=
  let events := s.currentPool.events
  (Pool.receiveAll events s.shown, { s with shown := events.length })

/-- Takes one new meeting through a pool of its own and waits for the end of its job. -/
def processOne (s : Stage) (settings : Pool.Settings) (draft : MeetingDraft) (waitMs : Nat) :
    Except Ingest.Failure Ingest.Report × Stage :=
  match s.attempt (Call.createMeeting draft).attempt with
  | (.error e, s) => (.error (.store e), s)
  | (.ok m, s) =>
    let (k, s) := s.addPool settings
    let s := s.startPool k
    let (outcomes, s) := s.offer k [m.id]
    if outcomes ≠ [.enqueued] then
      (.error (.notEnqueued m.id (outcomes.headD .closed)), (s.stopPool k).settle)
    else
      let s := if waitMs = 0 then s else s.settle
      match Pool.awaitJob m.id (s.crew k).pool.events 0 with
      | .error _ => (.error (.notFinished m.id waitMs), s.abandon k)
      | .ok (created, evidence) =>
        let s := (s.stopPool k).settle
        let s := { s with stops := s.stops.filter fun c => c.1 ≠ k }
        match s.attempt (Call.fetchMeeting m.id).attempt with
        | (.error e, s) => (.error (.store e), s)
        | (.ok m, s) => (.ok ⟨m, created, evidence⟩, s)

end Stage

end MeetingInsights.Rehearsal
