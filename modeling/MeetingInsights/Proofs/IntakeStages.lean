import Mathlib.Algebra.GroupWithZero.Nat
import MeetingInsights.Proofs.IntakeRuns

/-! # What an intake has come to

At every moment one job is owed at most, and it goes on from where it stands as it would by itself.
The caller learns its end, and nobody has been at the store but that job.
-/

namespace MeetingInsights

def Job.Outcome.counts : Job.Outcome → Nat × Nat
  | .done summary => (summary.created.length, summary.evidenceAdded)
  | .failed _ | .skipped => (0, 0)

namespace Pool

theorem Event.counts?_ofOutcome (id : Uuid) (o : Job.Outcome) :
    (Event.ofOutcome id o).counts? id = some o.counts := by
  cases o <;> exact if_pos rfl

private theorem receive_of_few {α : Type} {sent : List α} (few : sent.length ≤ channelCapacity)
    (position : Nat) :
    receive sent position =
      match sent[position]? with
      | some a => (.message a, position + 1)
      | none => (.empty, position) := by
  have kept : ¬ channelCapacity < sent.length - position := by omega
  exact if_neg kept

def Phase.isPresent : Phase → Bool
  | .leaving | .gone | .crashed _ => false
  | _ => true

/-- How many events a worker has to send before it can wait. -/
def Phase.news : Phase → Nat
  | .taken _ => 2
  | .starting | .working .. | .finished .. | .reporting .. => 1
  | .idle | .leaving | .gone | .crashed _ => 0

/-- How far a call to stop is from its return, and one more. -/
def StopCall.rank : StopCall → Nat
  | .pending => 6
  | .closed => 5
  | .signalled => 4
  | .joining _ => 3
  | .returned | .cancelled => 2

/-- The jobs that are to be ended, those of the meetings that wait and those that workers are at,
with what is left of them. -/
def owed (p : Pool) : List (Uuid × Program Job.Outcome) :=
  p.buffer.map (fun id => (id, Job.process id)) ++ p.workers.filterMap Phase.inFlight?

/-- How many events are to be sent before all workers wait, each job having two. -/
def newsDue (p : Pool) : Nat := 2 * p.buffer.length + (p.workers.map Phase.news).sum

variable {p : Pool} {v : Nat} {φ : Phase}

theorem sum_moved (weight : Phase → Nat) (h : p.workers[v]? = some φ) (ψ : Phase)
    (events : List Event) :
    ((p.moved v ψ events).workers.map weight).sum + weight φ =
      (p.workers.map weight).sum + weight ψ := by
  obtain ⟨before, after, hp, hmoved⟩ := workers_split h
  rw [hp, hmoved]
  simp only [List.map_append, List.map_cons, List.sum_append, List.sum_cons]
  omega

theorem news_moved (h : p.workers[v]? = some φ) {ψ : Phase} {events : List Event}
    (sends : events.length + ψ.news = φ.news) :
    (p.moved v ψ events).events.length + (p.moved v ψ events).newsDue =
      p.events.length + p.newsDue := by
  have sum := sum_moved Phase.news h ψ events
  have sent : (p.moved v ψ events).events.length = p.events.length + events.length :=
    List.length_append
  have buffer : (p.moved v ψ events).buffer = p.buffer := rfl
  simp only [newsDue, buffer]
  omega

private theorem news_take {id : Uuid} {rest : List Uuid} (h : p.workers[v]? = some .idle)
    (head : p.buffer = id :: rest) :
    newsDue { p.moved v (.taken id) [] with buffer := rest } = p.newsDue := by
  have sum := sum_moved Phase.news h (.taken id) []
  simp only [newsDue, head, List.length_cons, Phase.news] at sum ⊢
  omega

private theorem buffer_of_owed (h : p.owed = []) : p.buffer = [] :=
  List.map_eq_nil_iff.mp (List.append_eq_nil_iff.mp h).1

theorem owed_of_idle (buffer : p.buffer = []) (idle : ∀ φ ∈ p.workers, φ.inFlight? = none) :
    p.owed = [] := by
  rw [owed, buffer, List.filterMap_eq_nil_iff.mpr idle]
  rfl

end Pool

namespace Ingest

open Pool (World Action Event Phase)

variable {provider : Provider} {w w' : World} {v : Nat} {p q : Pool}

/-- What a step does to the jobs that are owed: nothing, or one of them goes on or is told to have
ended. -/
inductive Furthers (provider : Provider) (w w' : World) : Prop where
  | other {es} (owed : w'.pool.owed.Perm w.pool.owed) (backend : w'.backend = w.backend)
      (events : w'.pool.events = w.pool.events ++ es) (silent : ∀ e ∈ es, ∀ id, e.counts? id = none)
  | answer {id c next before after} (owed : w.pool.owed = before ++ (id, .call c next) :: after)
      (left : w'.pool.owed = before ++ (id, next (w.backend.answer provider c).1) :: after)
      (backend : w'.backend = (w.backend.answer provider c).2)
      (events : w'.pool.events = w.pool.events)
  | tell {id o before after} (owed : w.pool.owed = before ++ (id, .done o) :: after)
      (left : w'.pool.owed = before ++ after) (backend : w'.backend = w.backend)
      (events : w'.pool.events = w.pool.events ++ [.ofOutcome id o])

private theorem eq_of_singleton {α : Type} {before after : List α} {a b : α}
    (h : before ++ a :: after = [b]) : before = [] ∧ a = b ∧ after = [] := by
  rcases List.append_eq_singleton_iff.mp h with ⟨rfl, rest⟩ | ⟨_, rest⟩
  · exact ⟨rfl, List.cons.inj rest⟩
  · cases rest

private theorem forall_mem_set {α : Type} {P : α → Prop} {l : List α} {k : Nat} {b : α}
    (h : ∀ a ∈ l, P a) (hb : P b) : ∀ a ∈ l.set k b, P a := fun a ha =>
  (List.mem_or_eq_of_mem_set ha).elim (h a) fun same => same ▸ hb

section Steps

theorem owed_split {φ : Phase} (h : p.workers[v]? = some φ) :
    ∃ before after, p.owed = before ++ (φ.inFlight?.toList ++ after) ∧
      ∀ ψ events, (p.moved v ψ events).owed = before ++ (ψ.inFlight?.toList ++ after) := by
  obtain ⟨before, after, hp, hmoved⟩ := Pool.filterMap_split Phase.inFlight? h
  refine ⟨p.buffer.map (fun id => (id, Job.process id)) ++ before, after, ?_, fun ψ events => ?_⟩
  · rw [Pool.owed, hp, List.append_assoc]
  · rw [Pool.owed, hmoved, List.append_assoc]
    rfl

theorem owed_moved {φ ψ : Phase} (h : p.workers[v]? = some φ) (same : ψ.inFlight? = φ.inFlight?)
    (events : List Event) : (p.moved v ψ events).owed = p.owed := by
  obtain ⟨before, after, hp, hmoved⟩ := owed_split h
  rw [hmoved, hp, same]

theorem owed_take {id : Uuid} {rest : List Uuid} (idle : p.workers[v]? = some .idle)
    (head : p.buffer = id :: rest) :
    (Pool.owed { p.moved v (.taken id) [] with buffer := rest }).Perm p.owed := by
  obtain ⟨before, after, hp, hmoved⟩ := Pool.filterMap_split Phase.inFlight? idle
  change (rest.map _ ++ (p.moved v _ []).workers.filterMap Phase.inFlight?).Perm _
  rw [hmoved, Pool.owed, hp, head]
  simp only [Phase.inFlight?, Option.toList_some, Option.toList_none, List.nil_append,
    List.map_cons, List.cons_append, ← List.append_assoc]
  exact List.perm_middle

theorem Steps.furthers (h : Steps provider w v w') : Furthers provider w w' := by
  have unchanged : ∀ {φ ψ : Phase} {es : List Event}, w.pool.workers[v]? = some φ →
      ψ.inFlight? = φ.inFlight? → (∀ e ∈ es, ∀ id, e.counts? id = none) →
      Furthers provider w { w with pool := w.pool.moved v ψ es } := by
    intro φ ψ es stands same silent
    exact .other (.of_eq (owed_moved stands same es)) rfl rfl silent
  cases h with
  | announce stands | start stands =>
    exact unchanged stands rfl (List.forall_mem_singleton.mpr fun _ => rfl)
  | withdraw stands => exact unchanged stands rfl nofun
  | take stands head =>
    exact .other (owed_take stands head) rfl rfl (List.forall_mem_nil _)
  | answer stands =>
    obtain ⟨before, after, hp, hmoved⟩ := owed_split stands
    exact .answer hp (hmoved _ []) rfl (List.append_nil _)
  | conclude stands => exact unchanged stands rfl nofun
  | @untrack id o stands =>
    have same : (w.pool.moved v (.reporting id o) []).owed = w.pool.owed :=
      owed_moved stands (by rfl) []
    exact .other (.of_eq same) rfl rfl (List.forall_mem_nil _)
  | report stands =>
    obtain ⟨before, after, hp, hmoved⟩ := owed_split stands
    exact .tell hp (hmoved _ _) rfl rfl
  | leave stands => exact unchanged stands rfl (List.forall_mem_singleton.mpr fun _ => rfl)

theorem Furthers.of_nothing (h : Furthers provider w w') (owed : w.pool.owed = []) :
    w'.pool.owed = [] ∧ w'.backend = w.backend ∧
      ∃ es, w'.pool.events = w.pool.events ++ es ∧ ∀ e ∈ es, ∀ id, e.counts? id = none := by
  cases h with
  | other owed' backend events silent =>
    rw [owed] at owed'
    exact ⟨owed'.eq_nil, backend, _, events, silent⟩
  | answer owed' | tell owed' => simp [owed] at owed'

theorem Furthers.events (h : Furthers provider w w') : w.pool.events <+: w'.pool.events := by
  cases h with
  | other _ _ events | tell _ _ _ events =>
    rw [events]
    exact List.prefix_append _ _
  | answer _ _ _ events => exact events ▸ List.prefix_rfl

end Steps

/-- What is to come of a meeting that is taken in by a crew: how its job runs from the backend in
which it is stored, and how it is fetched afterwards. -/
structure Prospect (provider : Provider) where
  crew : Nat
  manned : 0 < crew
  few : crew ≤ 254
  meeting : Uuid
  stored : Backend
  outcome : Job.Outcome
  ending : Backend
  runs : (Job.process meeting).run provider stored = (outcome, ending)
  final : Meeting
  fetches : Attempt.run provider (Call.fetchMeeting meeting).attempt ending = (.ok final, ending)

namespace Prospect

variable (g : Prospect provider)

def report : Report := ⟨g.final, g.outcome.counts.1, g.outcome.counts.2⟩

/-- The job of the meeting is owed, or its end has been told, once. -/
inductive Standing (w : World) : Prop where
  | underWay {q : Program Job.Outcome} (owed : w.pool.owed = [(g.meeting, q)])
      (rest : q.run provider w.backend = (g.outcome, g.ending))
      (untold : ∀ e ∈ w.pool.events, e.counts? g.meeting = none)
  | told {before after} (owed : w.pool.owed = []) (backend : w.backend = g.ending)
      (events : w.pool.events = before ++ .ofOutcome g.meeting g.outcome :: after)
      (untold : ∀ e ∈ before ++ after, e.counts? g.meeting = none)

/-- Nobody has begun to stop the pool. -/
structure Unstopped (p : Pool) : Prop where
  isOpen : p.isOpen = true
  unsignalled : p.isSignalled = false
  uncalled : p.stops = []
  crew : p.workers.length = g.crew
  present : ∀ φ ∈ p.workers, φ.isPresent = true

/-- The job is over, and one call is stopping the pool. -/
structure Stopping (w : World) (call : Pool.StopCall) : Prop where
  owed : w.pool.owed = []
  backend : w.backend = g.ending
  calls : w.pool.stops = [call]
  kept : call ≠ .cancelled
  signalled : call.hasSignalled = true → w.pool.isSignalled = true
  crew : w.pool.workers.length = g.crew
  uncrashed : ∀ φ ∈ w.pool.workers, φ.crashed? = none

/-- How far an intake has come. -/
inductive Proceeds : Intake → Prop where
  | offering {w : World} (unstopped : g.Unstopped w.pool) (room : 0 < w.pool.settings.bufferSize)
      (tracked : w.pool.tracked = []) (owed : w.pool.owed = []) (backend : w.backend = g.stored)
      (news : w.pool.events.length + w.pool.newsDue = g.crew)
      (untold : ∀ e ∈ w.pool.events, e.counts? g.meeting = none) :
      Proceeds ⟨w, .offering g.meeting⟩
  | listening {w : World} {position : Nat} (unstopped : g.Unstopped w.pool)
      (standing : g.Standing w) (seen : position ≤ w.pool.events.length)
      (news : w.pool.events.length + w.pool.newsDue = g.crew + 2)
      (untold : ∀ e ∈ w.pool.events.take position, e.counts? g.meeting = none) :
      Proceeds ⟨w, .listening g.meeting position⟩
  | stopping {w : World} {call : Pool.StopCall} (stopping : g.Stopping w call) :
      Proceeds ⟨w, .stopping g.meeting (.ok g.outcome.counts)⟩
  | returned {w : World} (owed : w.pool.owed = []) (backend : w.backend = g.ending) :
      Proceeds ⟨w, .returned (.ok g.report)⟩

variable {g} {i : Intake} {call : Pool.StopCall}

theorem Standing.furthers (h : g.Standing w) (f : Furthers provider w w') : g.Standing w' := by
  cases h with
  | underWay owed rest untold =>
    cases f with
    | other owed' backend events silent =>
      rw [owed] at owed'
      refine .underWay (List.perm_singleton.mp owed') (by rw [backend, rest]) ?_
      rw [events]
      exact List.forall_mem_append.mpr ⟨untold, fun e he => silent e he _⟩
    | answer owed' left backend events =>
      obtain ⟨rfl, same, rfl⟩ := eq_of_singleton (owed'.symm.trans owed)
      obtain ⟨rfl, rfl⟩ := Prod.mk.inj same
      refine .underWay left ?_ (events ▸ untold)
      rw [backend, ← Program.run_call, rest]
    | tell owed' left backend events =>
      obtain ⟨rfl, same, rfl⟩ := eq_of_singleton (owed'.symm.trans owed)
      obtain ⟨rfl, rfl⟩ := Prod.mk.inj same
      obtain ⟨rfl, ended⟩ := Prod.mk.inj rest
      refine .told left (backend.trans ended) events ?_
      rw [List.append_nil]
      exact untold
  | told owed backend events untold =>
    cases f with
    | other owed' same events' silent =>
      rw [owed] at owed'
      rw [events, List.append_assoc, List.cons_append] at events'
      refine .told owed'.eq_nil (same.trans backend) events' ?_
      rw [← List.append_assoc]
      exact List.forall_mem_append.mpr ⟨untold, fun e he => silent e he _⟩
    | answer owed' | tell owed' => simp [owed] at owed'

theorem control_steps (h : Steps provider w v w') : w'.control = w.control := by
  cases h with
  | announce | withdraw | start | conclude | report | leave =>
    exact (Pool.sameControl_moved v _ _).control
  | take | answer | untrack => simp [World.control, Pool.moved, Pool.setPhase]

theorem Unstopped.steps (h : g.Unstopped w.pool) (s : Steps provider w v w') :
    g.Unstopped w'.pool := by
  have control := control_steps s
  have moves : ∀ {ψ : Phase}, ψ.isPresent = true →
      ∀ φ ∈ w.pool.workers.set v ψ, φ.isPresent = true := forall_mem_set h.present
  refine ⟨(congrArg Pool.Control.isOpen control).trans h.isOpen,
    (congrArg Pool.Control.isSignalled control).trans h.unsignalled,
    (congrArg Pool.Control.stops control).trans h.uncalled,
    (congrArg Pool.Control.size control).trans h.crew, ?_⟩
  cases s with
  | announce | take | start | answer | conclude | untrack | report => exact moves rfl
  | withdraw stands shut => simp [h.isOpen, h.unsignalled] at shut
  | leave stands => cases h.present _ (List.mem_of_getElem? stands)

theorem Unstopped.news (h : g.Unstopped w.pool) (s : Steps provider w v w') :
    w'.pool.events.length + w'.pool.newsDue = w.pool.events.length + w.pool.newsDue := by
  cases s with
  | announce stands | start stands | conclude stands | report stands =>
    exact Pool.news_moved stands rfl
  | answer stands | untrack stands => exact Pool.news_moved stands (by rfl)
  | take stands head =>
    rw [Pool.news_take stands head]
    exact congrArg (List.length · + _) (List.append_nil _)
  | withdraw stands shut => simp [h.isOpen, h.unsignalled] at shut
  | leave stands => cases h.present _ (List.mem_of_getElem? stands)

theorem Stopping.steps (h : g.Stopping w call) (s : Steps provider w v w') :
    g.Stopping w' call := by
  have control := control_steps s
  have moves : ∀ {ψ : Phase}, ψ.crashed? = none →
      ∀ φ ∈ w.pool.workers.set v ψ, φ.crashed? = none := forall_mem_set h.uncrashed
  obtain ⟨owed, backend, _⟩ := s.furthers.of_nothing h.owed
  refine ⟨owed, backend.trans h.backend, (congrArg Pool.Control.stops control).trans h.calls,
    h.kept,
    fun signalled => (congrArg Pool.Control.isSignalled control).trans (h.signalled signalled),
    (congrArg Pool.Control.size control).trans h.crew, ?_⟩
  cases s <;> exact moves rfl

theorem Proceeds.steps {c : Caller} (h : g.Proceeds ⟨w, c⟩) (s : Steps provider w v w') :
    g.Proceeds ⟨w', c⟩ := by
  cases h with
  | offering unstopped room tracked owed backend news untold =>
    obtain ⟨owed', backend', es, events, silent⟩ := s.furthers.of_nothing owed
    have settings : w'.pool.settings = w.pool.settings := by cases s <;> rfl
    have tracked' : w'.pool.tracked = [] := by
      cases s with
      | untrack => simp [tracked]
      | announce | withdraw | take | start | answer | conclude | report | leave => exact tracked
    refine .offering (unstopped.steps s) (settings ▸ room) tracked' owed' (backend'.trans backend)
      ((unstopped.news s).trans news) ?_
    rw [events]
    exact List.forall_mem_append.mpr ⟨untold, fun e he => silent e he _⟩
  | listening unstopped standing seen news untold =>
    have later := s.furthers.events
    refine .listening (unstopped.steps s) (standing.furthers s.furthers)
      (Nat.le_trans seen later.length_le) ((unstopped.news s).trans news) ?_
    obtain ⟨es, events⟩ := later
    rw [← events, List.take_append_of_le_length seen]
    exact untold
  | stopping stopping => exact .stopping (stopping.steps s)
  | returned owed backend =>
    obtain ⟨owed', backend', _⟩ := s.furthers.of_nothing owed
    exact .returned owed' (backend'.trans backend)

theorem Proceeds.endTicker {c : Caller} (h : g.Proceeds ⟨w, c⟩) :
    g.Proceeds ⟨w.act .endTicker, c⟩ := by
  simp only [World.act, Pool.endTicker?]
  split
  · rename_i due
    cases h with
    | offering unstopped | listening unstopped => simp [unstopped.unsignalled] at due
    | stopping stopping =>
      exact .stopping ⟨stopping.owed, stopping.backend, stopping.calls, stopping.kept,
        stopping.signalled, stopping.crew, stopping.uncrashed⟩
    | returned owed backend => exact .returned owed backend
  · exact h

/-- What the caller does in a turn in which there is something to do. -/
inductive Advances : Intake → Intake → Prop where
  | offers {w : World} (buffer : w.pool.buffer = []) :
      Advances ⟨w, .offering g.meeting⟩
        ⟨{ w with pool := { w.pool with buffer := [g.meeting], tracked := [g.meeting] } },
          .listening g.meeting 0⟩
  | passes {w : World} {position : Nat} {e : Event} (next : w.pool.events[position]? = some e)
      (other : e.counts? g.meeting = none) :
      Advances ⟨w, .listening g.meeting position⟩ ⟨w, .listening g.meeting (position + 1)⟩
  | hears {w : World} {position : Nat} {e : Event} {counts : Nat × Nat}
      (next : w.pool.events[position]? = some e) (heard : e.counts? g.meeting = some counts) :
      Advances ⟨w, .listening g.meeting position⟩
        ⟨w.act .callStop, .stopping g.meeting (.ok counts)⟩
  | stops {w : World} {q : Pool} (stops : Pool.Stops w.pool 0 q) :
      Advances ⟨w, .stopping g.meeting (.ok g.outcome.counts)⟩
        ⟨{ w with pool := q }, .stopping g.meeting (.ok g.outcome.counts)⟩
  | fetches {w : World} (returned : w.pool.hasReturned 0 = true) :
      Advances ⟨w, .stopping g.meeting (.ok g.outcome.counts)⟩
        ⟨{ w with backend := g.ending }, .returned (.ok g.report)⟩

/-- There is nothing for the caller to do: it has received all events so far, the workers that it
waits for have not all ended, or it has returned. -/
inductive Waits : Intake → Prop where
  | listening {w : World} {position : Nat} (received : w.pool.events.length ≤ position) :
      Waits ⟨w, .listening g.meeting position⟩
  | stopping {w : World} (unreturned : w.pool.hasReturned 0 = false)
      (blocked : w.pool.stopStep? 0 = none) :
      Waits ⟨w, .stopping g.meeting (.ok g.outcome.counts)⟩
  | returned {w : World} {result : Except Failure Report} : Waits ⟨w, .returned result⟩

/-- The caller's turn is a step, or it has nothing to do but to wait. -/
theorem Proceeds.advances (h : g.Proceeds i) :
    (i.advance provider = i ∧ g.Waits i) ∨ g.Advances i (i.advance provider) := by
  cases h with
  | @offering w unstopped room tracked owed =>
    have buffer := Pool.buffer_of_owed owed
    have accepted : w.pool.enqueue g.meeting =
        (.enqueued, { w.pool with buffer := [g.meeting], tracked := [g.meeting] }) := by
      simp [Pool.enqueue, unstopped.isOpen, tracked, buffer, room]
    simp only [Intake.advance, accepted]
    exact .inr (.offers buffer)
  | @listening w position _ _ _ news =>
    have few : w.pool.events.length ≤ Pool.channelCapacity := by
      have := g.few
      unfold Pool.channelCapacity
      omega
    simp only [Intake.advance, Pool.receive_of_few few]
    cases next : w.pool.events[position]? with
    | none => exact .inl ⟨rfl, .listening (List.getElem?_eq_none_iff.mp next)⟩
    | some e =>
      cases heard : e.counts? g.meeting with
      | none =>
        simp only [heard]
        exact .inr (.passes next heard)
      | some counts =>
        simp only [heard]
        exact .inr (.hears next heard)
  | @stopping w call stopping =>
    simp only [Intake.advance]
    split
    · rename_i returned
      have fetched : Attempt.run provider (Call.fetchMeeting g.meeting).attempt w.backend =
          (.ok g.final, g.ending) := stopping.backend ▸ g.fetches
      simp only [Intake.conclude, fetched]
      exact .inr (.fetches returned)
    · rename_i unreturned
      simp only [World.act, World.onPool]
      cases hq : w.pool.stopStep? 0 with
      | none => exact .inl ⟨rfl, .stopping (Bool.eq_false_iff.mpr unreturned) hq⟩
      | some q => exact .inr (.stops (Pool.stopStep?_stops hq))
  | returned => exact .inl ⟨rfl, .returned⟩

theorem Standing.heard (h : g.Standing w) {e : Event} (sent : e ∈ w.pool.events)
    {counts : Nat × Nat} (heard : e.counts? g.meeting = some counts) :
    counts = g.outcome.counts ∧ w.pool.owed = [] ∧ w.backend = g.ending := by
  cases h with
  | underWay owed rest untold => simp [untold e sent] at heard
  | told owed backend events untold =>
    obtain ⟨before, after⟩ := List.forall_mem_append.mp untold
    refine ⟨?_, owed, backend⟩
    rw [events] at sent
    rcases List.mem_append.mp sent with early | _ | ⟨_, late⟩
    · simp [before e early] at heard
    · rw [Event.counts?_ofOutcome] at heard
      exact (Option.some.inj heard).symm
    · simp [after e late] at heard

theorem Unstopped.beginStop (h : g.Unstopped w.pool) (owed : w.pool.owed = [])
    (backend : w.backend = g.ending) : g.Stopping (w.act .callStop) .pending where
  owed := owed
  backend := backend
  calls := congrArg (· ++ [Pool.StopCall.pending]) h.uncalled
  kept := nofun
  signalled := nofun
  crew := h.crew
  uncrashed φ hφ := by
    have present := h.present φ hφ
    cases φ with
    | crashed => cases present
    | starting | idle | taken | working | finished | reporting | leaving | gone => rfl

theorem Stopping.stops (h : g.Stopping w call) (s : Pool.Stops w.pool 0 q) :
    ∃ next, g.Stopping { w with pool := q } next ∧ next.rank < call.rank := by
  have stands : w.pool.stops[0]? = some call := by rw [h.calls]; rfl
  have replaced : ∀ next, w.pool.stops.set 0 next = [next] := fun next => by rw [h.calls]; rfl
  cases s with
  | join before | close before | finish before =>
    obtain rfl := Option.some.inj (stands.symm.trans before)
    exact ⟨_, ⟨h.owed, h.backend, replaced _, by simp, by simp [Pool.StopCall.hasSignalled], h.crew,
      h.uncrashed⟩, by simp [Pool.StopCall.rank]⟩
  | signal before =>
    obtain rfl := Option.some.inj (stands.symm.trans before)
    have manned : w.pool.workers.isEmpty = false := by
      rw [List.isEmpty_eq_false_iff_exists_mem]
      exact List.exists_mem_of_length_pos (h.crew ▸ g.manned)
    refine ⟨.signalled, ?_, by decide⟩
    simp only [Pool.signal, manned, Bool.false_eq_true, if_false]
    exact ⟨h.owed, h.backend, replaced _, by simp, fun _ => rfl, h.crew, h.uncrashed⟩
  | await before =>
    obtain rfl := Option.some.inj (stands.symm.trans before)
    exact ⟨_, ⟨h.owed, h.backend, replaced _, by simp, fun _ => h.signalled rfl, h.crew,
      h.uncrashed⟩, by simp [Pool.StopCall.rank]⟩

theorem Advances.proceeds {i' : Intake} (a : g.Advances i i') (h : g.Proceeds i) :
    g.Proceeds i' := by
  cases a with
  | @offers w buffer =>
    cases h with
    | offering unstopped room tracked owed backend news untold =>
      rw [Pool.owed, buffer, List.map_nil, List.nil_append] at owed
      have standing : g.Standing { w with pool :=
          { w.pool with buffer := [g.meeting], tracked := [g.meeting] } } := by
        refine .underWay (q := Job.process g.meeting) ?_ ?_ untold
        · simp [Pool.owed, owed]
        · exact (congrArg _ backend).trans g.runs
      refine .listening ⟨unstopped.isOpen, unstopped.unsignalled, unstopped.uncalled,
        unstopped.crew, unstopped.present⟩ standing (Nat.zero_le _) ?_ nofun
      simp only [Pool.newsDue, buffer, List.length_nil, List.length_singleton] at news ⊢
      omega
  | passes next other =>
    cases h with
    | listening unstopped standing seen news untold =>
      obtain ⟨before, _⟩ := List.getElem?_eq_some_iff.mp next
      refine .listening unstopped standing before news ?_
      rw [List.take_add_one, next]
      exact List.forall_mem_append.mpr ⟨untold, List.forall_mem_singleton.mpr other⟩
  | hears next heard =>
    cases h with
    | listening unstopped standing =>
      obtain ⟨rfl, owed, backend⟩ := standing.heard (List.mem_of_getElem? next) heard
      exact .stopping (unstopped.beginStop owed backend)
  | stops stops =>
    cases h with
    | stopping stopping =>
      obtain ⟨_, next, _⟩ := stopping.stops stops
      exact .stopping next
  | fetches =>
    cases h with
    | stopping stopping => exact .returned stopping.owed rfl

theorem Proceeds.act (h : g.Proceeds i) (turn : Turn) : g.Proceeds (i.act provider turn) := by
  obtain ⟨w, c⟩ := i
  cases turn with
  | caller =>
    change g.Proceeds (Intake.advance provider ⟨w, c⟩)
    rcases h.advances with ⟨same, _⟩ | advances
    · rw [same]
      exact h
    · exact advances.proceeds h
  | worker v deed =>
    simp only [Intake.act]
    rcases steps_act provider w v deed with same | steps
    · rw [same]
      exact h
    · exact h.steps steps
  | ticker => exact h.endTicker

theorem Proceeds.run (h : g.Proceeds i) (turns : List Turn) :
    g.Proceeds (i.run provider turns) := by
  induction turns generalizing i with
  | nil => exact h
  | cons turn turns ih => exact ih (h.act turn)

theorem Proceeds.after (h : g.Proceeds i) (schedule : Nat → Turn) (n : Nat) :
    g.Proceeds (i.after provider schedule n) := by
  induction n with
  | zero => exact h
  | succ n ih => exact ih.act (schedule n)

end Prospect

end Ingest

end MeetingInsights
