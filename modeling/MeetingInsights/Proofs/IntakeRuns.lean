import Mathlib.Data.Nat.Pairing
import MeetingInsights.Ingest
import MeetingInsights.Proofs.Shutdown

/-! # Taking a meeting in, step by step

A meeting is offered to a pool of its own. Who has offered it listens to the events of the pool
until the end of the job shows, stops the pool and fetches the meeting, while the workers begin,
look at the queue, do the job and leave whenever they get their turns.
-/

namespace MeetingInsights.Ingest

open Pool (World Action Event Phase)

/-- Where the one stands who takes a meeting in. -/
inductive Caller where
  /-- The pool has been started, and the meeting is to be offered to it. -/
  | offering (id : Uuid)
  /-- Waiting for the end of the job, past so many events. -/
  | listening (id : Uuid) (position : Nat)
  /-- Stopping the pool, to fetch the meeting then and report it with these counts, or to fail. -/
  | stopping (id : Uuid) (ending : Except Failure (Nat × Nat))
  | returned (result : Except Failure Report)

/-- A meeting on its way through a pool, with the one who waits for it. -/
structure Intake where
  world : World
  caller : Caller

inductive Deed where
  | announce
  | take
  | takeLate
  | startJob
  | work
  | untrack
  | report
  | leave
deriving DecidableEq, Repr

def Deed.action (provider : Provider) (v : Nat) : Deed → Action
  | .announce => .announce v
  | .take => .take v
  | .takeLate => .takeLate v
  | .startJob => .startJob v
  | .work => .work v provider
  | .untrack => .untrack v
  | .report => .report v
  | .leave => .leave v

inductive Turn where
  | caller
  | worker (v : Nat) (deed : Deed)
  | ticker
deriving DecidableEq, Repr

namespace Intake

/-- The caller begins to stop the pool. -/
def beginStop (i : Intake) (id : Uuid) (ending : Except Failure (Nat × Nat)) : Intake :=
  ⟨i.world.act .callStop, .stopping id ending⟩

/-- What the caller does once the pool has been stopped. -/
def conclude (provider : Provider) (i : Intake) (id : Uuid) :
    Except Failure (Nat × Nat) → Intake
  | .error failure => { i with caller := .returned (.error failure) }
  | .ok (created, evidence) =>
    match Attempt.run provider (Call.fetchMeeting id).attempt i.world.backend with
    | (.error e, b) => ⟨{ i.world with backend := b }, .returned (.error (.store e))⟩
    | (.ok m, b) => ⟨{ i.world with backend := b }, .returned (.ok ⟨m, created, evidence⟩)⟩

/-- The caller's next step. With no event to receive it waits, as it does for workers to end. -/
def advance (provider : Provider) (i : Intake) : Intake :=
  match i.caller with
  | .offering id =>
    match i.world.pool.enqueue id with
    | (.enqueued, p) => ⟨{ i.world with pool := p }, .listening id 0⟩
    | (outcome, p) =>
      beginStop ⟨{ i.world with pool := p }, i.caller⟩ id (.error (.notEnqueued id outcome))
  | .listening id position =>
    match Pool.receive i.world.pool.events position with
    | (.message e, next) =>
      match e.counts? id with
      | some counts => i.beginStop id (.ok counts)
      | none => { i with caller := .listening id next }
    | (.lagged _, next) => { i with caller := .listening id next }
    | (.empty, _) => i
  | .stopping id ending =>
    if i.world.pool.hasReturned 0 then i.conclude provider id ending
    else { i with world := i.world.act (.stopStep 0) }
  | .returned _ => i

def act (provider : Provider) (i : Intake) : Turn → Intake
  | .caller => i.advance provider
  | .worker v deed => { i with world := i.world.act (deed.action provider v) }
  | .ticker => { i with world := i.world.act .endTicker }

def run (provider : Provider) (i : Intake) (turns : List Turn) : Intake :=
  turns.foldl (act provider) i

def after (provider : Provider) (i : Intake) (schedule : Nat → Turn) : Nat → Intake
  | 0 => i
  | n + 1 => (i.after provider schedule n).act provider (schedule n)

/-- The intake of a new meeting, once it is stored and the pool has been started. -/
def begun (provider : Provider) (settings : Pool.Settings) (draft : MeetingDraft) (b : Backend) :
    Intake :=
  match Attempt.run provider (Call.createMeeting draft).attempt b with
  | (.error e, b) => ⟨.opened settings b, .returned (.error (.store e))⟩
  | (.ok m, b) => ⟨⟨(Pool.new settings).start, b, .absent⟩, .offering m.id⟩

end Intake

/-- While there is anything to do for anybody, something of it is done sooner or later. -/
def Lively (provider : Provider) (i : Intake) (schedule : Nat → Turn) : Prop :=
  ∀ n, (∃ turn, (i.after provider schedule n).act provider turn ≠ i.after provider schedule n) →
    ∃ m, n ≤ m ∧ i.after provider schedule (m + 1) ≠ i.after provider schedule m

/-- Everybody gets every turn over and over again. -/
def Fair (schedule : Nat → Turn) : Prop := ∀ turn n, ∃ m, n ≤ m ∧ schedule m = turn

variable {provider : Provider} {w w' : World} {v : Nat} {p q : Pool} {i : Intake}
  {schedule : Nat → Turn}

theorem Intake.after_add (i : Intake) (schedule : Nat → Turn) (n m : Nat) :
    i.after provider schedule (n + m) =
      (i.after provider schedule n).after provider (fun k => schedule (n + k)) m := by
  induction m with
  | zero => rfl
  | succ m ih => exact congrArg (act provider · (schedule (n + m))) ih

theorem Lively.later (h : Lively provider i schedule) (n : Nat) :
    Lively provider (i.after provider schedule n) fun k => schedule (n + k) := by
  intro k due
  rw [← Intake.after_add] at due
  obtain ⟨m, late, moves⟩ := h (n + k) due
  obtain ⟨d, rfl⟩ := Nat.exists_eq_add_of_le late
  refine ⟨k + d, Nat.le_add_right k d, ?_⟩
  rw [← Intake.after_add, ← Intake.after_add, ← Nat.add_assoc, ← Nat.add_assoc]
  exact moves

theorem Fair.lively (fair : Fair schedule) (i : Intake) : Lively provider i schedule := by
  rintro n ⟨turn, moves⟩
  by_contra never
  have still : ∀ m, n ≤ m → i.after provider schedule (m + 1) = i.after provider schedule m :=
    fun m late => by_contra fun moves => never ⟨m, late, moves⟩
  have same : ∀ d, i.after provider schedule (n + d) = i.after provider schedule n := by
    intro d
    induction d with
    | zero => rfl
    | succ d ih => exact (still (n + d) (Nat.le_add_right n d)).trans ih
  obtain ⟨m, late, comes⟩ := fair turn n
  obtain ⟨d, rfl⟩ := Nat.exists_eq_add_of_le late
  have stays := still (n + d) late
  rw [Intake.after, comes, same] at stays
  exact moves stays

def Turn.numbered : Nat → Turn
  | 0 => .caller
  | 1 => .ticker
  | k + 2 =>
    .worker k.unpair.1
      ([.announce, .take, .takeLate, .startJob, .work, .untrack, .report, .leave].getD k.unpair.2
        .announce)

private theorem Turn.exists_numbered (turn : Turn) : ∃ k, numbered k = turn := by
  cases turn with
  | caller => exact ⟨0, rfl⟩
  | ticker => exact ⟨1, rfl⟩
  | worker v deed =>
    have number : ∃ k, [Deed.announce, .take, .takeLate, .startJob, .work, .untrack, .report,
        .leave].getD k .announce = deed := by
      cases deed with
      | announce => exact ⟨0, rfl⟩
      | take => exact ⟨1, rfl⟩
      | takeLate => exact ⟨2, rfl⟩
      | startJob => exact ⟨3, rfl⟩
      | work => exact ⟨4, rfl⟩
      | untrack => exact ⟨5, rfl⟩
      | report => exact ⟨6, rfl⟩
      | leave => exact ⟨7, rfl⟩
    obtain ⟨k, found⟩ := number
    exact ⟨Nat.pair v k + 2, by rw [numbered, Nat.unpair_pair, found]⟩

/-- There are schedules on which everybody gets every turn over and over again. -/
theorem exists_fair : ∃ schedule, Fair schedule := by
  refine ⟨fun n => .numbered n.unpair.2, fun turn n => ?_⟩
  obtain ⟨k, rfl⟩ := turn.exists_numbered
  exact ⟨Nat.pair n k, Nat.left_le_pair n k, by simp only [Nat.unpair_pair]⟩

/-- What a worker does in a turn in which there is something for it to do. -/
inductive Steps (provider : Provider) (w : World) (v : Nat) : World → Prop where
  | announce (stands : w.pool.workers[v]? = some .starting) :
      Steps provider w v { w with pool := w.pool.moved v .idle [.workerStarted v] }
  | withdraw (stands : w.pool.workers[v]? = some .idle)
      (shut : w.pool.isSignalled = true ∨ w.pool.isOpen = false) :
      Steps provider w v { w with pool := w.pool.moved v .leaving [] }
  | take {id rest} (stands : w.pool.workers[v]? = some .idle) (head : w.pool.buffer = id :: rest) :
      Steps provider w v { w with pool := { w.pool.moved v (.taken id) [] with buffer := rest } }
  | start {id} (stands : w.pool.workers[v]? = some (.taken id)) :
      Steps provider w v
        { w with pool := w.pool.moved v (.working id (Job.process id)) [.jobStarted id v] }
  | answer {id c next} (stands : w.pool.workers[v]? = some (.working id (.call c next))) :
      Steps provider w v
        { w with
          pool := w.pool.moved v (.working id (next (w.backend.answer provider c).1)) []
          backend := (w.backend.answer provider c).2 }
  | conclude {id o} (stands : w.pool.workers[v]? = some (.working id (.done o))) :
      Steps provider w v { w with pool := w.pool.moved v (.finished id o) [] }
  | untrack {id o} (stands : w.pool.workers[v]? = some (.finished id o)) :
      Steps provider w v { w with pool :=
        { w.pool.moved v (.reporting id o) [] with
          tracked := w.pool.tracked.filter fun t => t ≠ id } }
  | report {id o} (stands : w.pool.workers[v]? = some (.reporting id o)) :
      Steps provider w v { w with pool := w.pool.moved v .idle [.ofOutcome id o] }
  | leave (stands : w.pool.workers[v]? = some .leaving) :
      Steps provider w v { w with pool := w.pool.moved v .gone [.workerStopped v] }

theorem steps_turn (h : Pool.Turns w.pool v q) : Steps provider w v { w with pool := q } := by
  cases h with
  | withdraws stands shut => exact .withdraw stands shut
  | takes stands head => exact .take stands head

theorem steps_onPool {p? : Option Pool}
    (h : ∀ q, p? = some q → Steps provider w v { w with pool := q }) :
    w.onPool p? = w ∨ Steps provider w v (w.onPool p?) := by
  cases p? with
  | none => exact .inl rfl
  | some q => exact .inr (h q rfl)

private theorem steps_work (w : World) (v : Nat) :
    w.act (.work v provider) = w ∨ Steps provider w v (w.act (.work v provider)) := by
  simp only [World.act, Pool.work?]
  cases stands : w.pool.workers[v]? with
  | none => exact .inl rfl
  | some φ =>
    cases φ with
    | working id job =>
      simp only [← Pool.moved_nil]
      cases job with
      | call c next => exact .inr (.answer stands)
      | done o => exact .inr (.conclude stands)
    | starting | idle | taken | finished | reporting | leaving | gone | crashed => exact .inl rfl

theorem steps_act (provider : Provider) (w : World) (v : Nat) (deed : Deed) :
    w.act (deed.action provider v) = w ∨ Steps provider w v (w.act (deed.action provider v)) := by
  cases deed with
  | announce =>
    refine steps_onPool fun q hq => ?_
    obtain ⟨stands, rfl⟩ := Pool.announce?_eq_some hq
    exact .announce stands
  | take => exact steps_onPool fun q hq => steps_turn (Pool.takeNext?_eq_some hq)
  | takeLate => exact steps_onPool fun q hq => steps_turn (Pool.takeLate?_eq_some hq)
  | startJob =>
    refine steps_onPool fun q hq => ?_
    obtain ⟨id, stands, rfl⟩ := Pool.startJob?_eq_some hq
    exact .start stands
  | work => exact steps_work w v
  | untrack =>
    refine steps_onPool fun q hq => ?_
    obtain ⟨id, o, stands, rfl⟩ := Pool.untrack?_eq_some hq
    exact .untrack stands
  | report =>
    refine steps_onPool fun q hq => ?_
    obtain ⟨id, o, stands, rfl⟩ := Pool.report?_eq_some hq
    exact .report stands
  | leave =>
    refine steps_onPool fun q hq => ?_
    obtain ⟨stands, rfl⟩ := Pool.leave?_eq_some hq
    exact .leave stands

end MeetingInsights.Ingest
