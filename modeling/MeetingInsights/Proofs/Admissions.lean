import MeetingInsights.Proofs.Shutdown

/-! # Meetings that are offered

A caller who offers a meeting is answered by what can be seen of the pool: whether it is closed, who
waits, who is held by a worker, and how much room is left. An offer that is not accepted leaves the
queue as it is.
-/

namespace MeetingInsights.Pool

variable {w : World} {a : Action} {actions : List Action} {v : Nat} {φ : Phase} {id : Uuid}

def World.IsClosing (w : World) (a : Action) : Prop :=
  ∃ k, a = .stopStep k ∧ w.pool.stops[k]? = some .pending ∧
    (w.act a).pool.stops[k]? = some .closed

private theorem Stops.isClosing {k : Nat} {q : Pool} (stops : Stops w.pool k q)
    (act : w.act (.stopStep k) = { w with pool := q }) :
    q.isOpen = false ↔ w.pool.isOpen = false ∨ w.IsClosing (.stopStep k) := by
  have closing : w.IsClosing (.stopStep k) →
      w.pool.stops[k]? = some .pending ∧ q.stops[k]? = some .closed := by
    rintro ⟨_, ⟨rfl⟩, pending, closed⟩
    rw [act] at closed
    exact ⟨pending, closed⟩
  have after : ∀ {p : Pool} {call call' : StopCall}, p.stops[k]? = some call →
      (p.setStop k call').stops[k]? = some call' := fun stands =>
    List.getElem?_set_self (List.getElem?_eq_some_iff.mp stands).1
  cases stops with
  | join stands =>
    refine ⟨.inl, fun h => h.resolve_right fun closes => ?_⟩
    rw [after stands] at closing
    cases (closing closes).2
  | close stands =>
    refine ⟨fun _ => .inr ⟨k, rfl, stands, ?_⟩, fun _ => rfl⟩
    rw [act]
    exact after (p := w.pool.close) stands
  | signal stands =>
    have same : w.pool.signal.isOpen = w.pool.isOpen := by
      unfold Pool.signal
      split <;> rfl
    refine ⟨fun h => .inl (same.symm.trans h), fun h => same.trans (h.resolve_right fun closes => ?_)⟩
    rw [stands] at closing
    cases (closing closes).1
  | await stands | finish stands =>
    refine ⟨.inl, fun h => h.resolve_right fun closes => ?_⟩
    rw [stands] at closing
    cases (closing closes).1

private theorem isOpen_act (w : World) (a : Action) :
    (w.act a).pool.isOpen = false ↔ w.pool.isOpen = false ∨ w.IsClosing a := by
  have other : (∀ k, a ≠ .stopStep k) → (w.act a).pool.isOpen = w.pool.isOpen →
      ((w.act a).pool.isOpen = false ↔ w.pool.isOpen = false ∨ w.IsClosing a) := by
    intro elsewise same
    rw [same]
    exact ⟨.inl, fun h => h.resolve_right fun ⟨k, hk, _⟩ => elsewise k hk⟩
  cases ha : a.isControl with
  | false =>
    have same := congrArg Control.isOpen (sameControl_act (w := w) ha).control
    refine other (fun k hk => ?_) same
    subst hk
    cases ha
  | true =>
    have controls : Controls w a (w.act a) := controls_act ha
    generalize hw : w.act a = w' at controls other ⊢
    cases controls with
    | rest =>
      refine ⟨.inl, fun h => h.resolve_right fun ⟨_, _, pending, closed⟩ => ?_⟩
      rw [hw, pending] at closed
      cases closed
    | stop stops => exact stops.isClosing hw
    | mark | test | spawn | call | cancel => exact other nofun rfl

theorem isOpen_run (w : World) (actions : List Action) :
    (w.run actions).pool.isOpen = false ↔ w.pool.isOpen = false ∨
      ∃ before a after, actions = before ++ a :: after ∧ (w.run before).IsClosing a := by
  induction actions generalizing w with
  | nil =>
    refine ⟨.inl, fun h => h.resolve_right ?_⟩
    rintro ⟨before, a, after, split, _⟩
    simp at split
  | cons a actions ih =>
    change ((w.act a).run actions).pool.isOpen = false ↔ _
    rw [ih, isOpen_act, or_assoc]
    refine or_congr_right ⟨?_, ?_⟩
    · rintro (closing | ⟨before, c, after, rfl, closing⟩)
      · exact ⟨[], a, actions, rfl, closing⟩
      · exact ⟨a :: before, c, after, rfl, closing⟩
    · rintro ⟨before, c, after, split, closing⟩
      cases before with
      | nil =>
        cases split
        exact .inl closing
      | cons d before =>
        cases split
        exact .inr ⟨before, c, after, rfl, closing⟩

private theorem notes_append (note? : World → Action → Option Uuid) (w : World)
    (before after : List Action) :
    w.notes note? (before ++ after) = w.notes note? before ++ (w.run before).notes note? after := by
  induction before generalizing w with
  | nil => rfl
  | cons a before ih =>
    rw [List.cons_append, World.notes, ih, World.notes, List.append_assoc]
    rfl

private theorem tracking_run (h : Tracking w.pool) (actions : List Action) :
    Tracking (w.run actions).pool := by
  induction actions generalizing w with
  | nil => exact h
  | cons a actions ih => exact ih (tracking_act h a)

private theorem untracked_act (tracking : Tracking w.pool) (untracked : id ∉ w.pool.tracked)
    (unaccepted : w.offered? .enqueued a ≠ some id) : id ∉ (w.act a).pool.tracked := by
  rw [tracking.tracked.mem_iff] at untracked
  rw [(tracking_act tracking a).tracked.mem_iff]
  intro waits
  rcases (World.serves_act w a).waiting waits with before | accepted
  · exact untracked before
  · exact unaccepted accepted

theorem unaccepted_cons (h : id ∉ w.notes (World.offered? .enqueued) (a :: actions)) :
    w.offered? .enqueued a ≠ some id ∧
      id ∉ (w.act a).notes (World.offered? .enqueued) actions := by
  rw [World.notes, List.mem_append, not_or, Option.mem_toList] at h
  exact ⟨h.1, h.2⟩

/-- A meeting that is not tracked is not tracked until it is accepted. -/
theorem untracked_run (tracking : Tracking w.pool) (untracked : id ∉ w.pool.tracked)
    (unaccepted : id ∉ w.notes (World.offered? .enqueued) actions) :
    id ∉ (w.run actions).pool.tracked := by
  induction actions generalizing w with
  | nil => exact untracked
  | cons a actions ih =>
    obtain ⟨now, later⟩ := unaccepted_cons unaccepted
    exact ih (tracking_act tracking a) (untracked_act tracking untracked now) later

private theorem holds_act (stands : w.pool.workers[v]? = some φ) (holds : φ.held? = some id)
    (a : Action) : (∃ ψ, (w.act a).pool.workers[v]? = some ψ ∧ ψ.held? = some id) ∨
      id ∉ (w.act a).pool.tracked := by
  have busy : φ.meeting? = some id := by
    cases φ with
    | taken | working | finished | crashed => exact holds
    | starting | idle | reporting | leaving | gone => cases holds
  rcases stands_act stands busy a with still | ⟨ψ, es, shifts, stands', _⟩
  · exact .inl ⟨φ, still, holds⟩
  · cases shifts with
    | start | answer | conclude | crash => exact .inl ⟨_, stands', holds⟩
    | untrack turn =>
      refine .inr ?_
      obtain rfl := Option.some.inj holds
      rw [turn]
      simp [World.act, untrack?, stands, World.onPool, setPhase]
    | announce | withdraw | report | leave => cases holds

/-- A worker holds a meeting until it is no longer tracked, which it is not until it is accepted
again. -/
theorem holds_run (tracking : Tracking w.pool) (stands : w.pool.workers[v]? = some φ)
    (holds : φ.held? = some id) (unaccepted : id ∉ w.notes (World.offered? .enqueued) actions) :
    (∃ ψ, (w.run actions).pool.workers[v]? = some ψ ∧ ψ.held? = some id) ∨
      id ∉ (w.run actions).pool.tracked := by
  induction actions generalizing w φ with
  | nil => exact .inl ⟨φ, stands, holds⟩
  | cons a actions ih =>
    obtain ⟨now, later⟩ := unaccepted_cons unaccepted
    rcases holds_act stands holds a with ⟨ψ, stands', holds'⟩ | untracked
    · exact ih (tracking_act tracking a) stands' holds' later
    · have after := untracked_run (tracking_act tracking a) untracked later
      exact .inr after

theorem enqueue_eq_duplicate_iff (p : Pool) (id : Uuid) :
    (p.enqueue id).1 = .duplicate ↔ p.isOpen = true ∧ id ∈ p.tracked := by
  unfold enqueue
  split
  · simp_all
  · split
    · simp_all
    · split <;> simp_all

private theorem enqueue_eq_closed_iff (p : Pool) (id : Uuid) :
    (p.enqueue id).1 = .closed ↔ p.isOpen = false := by
  unfold enqueue
  split
  · simp_all
  · split
    · simp_all
    · split <;> simp_all

theorem enqueue_eq_enqueued_iff (p : Pool) (id : Uuid) :
    (p.enqueue id).1 = .enqueued ↔
      p.isOpen = true ∧ id ∉ p.tracked ∧ p.buffer.length < p.settings.bufferSize := by
  unfold enqueue
  split
  · simp_all
  · split
    · simp_all
    · split <;> simp_all

theorem enqueue_eq_dropped_iff (p : Pool) (id : Uuid) :
    (p.enqueue id).1 = .dropped ↔
      p.isOpen = true ∧ id ∉ p.tracked ∧ p.settings.bufferSize ≤ p.buffer.length := by
  unfold enqueue
  split
  · simp_all
  · split
    · simp_all
    · split <;> simp_all

/-- A worker in whose job the provider has not crashed holds a meeting from the moment it takes it
until it takes it off the tracked ones, when the job is over. -/
theorem mem_held_iff (courses : Courses w.pool) (whole : .crashed id ∉ w.pool.workers) :
    id ∈ w.pool.held ↔ ∃ φ ∈ w.pool.workers, φ = .taken id ∨
      (∃ xs q, φ = .working id q ∧ (Job.process id).Leaves xs q) ∨ ∃ o, φ = .finished id o := by
  refine List.mem_filterMap.trans ⟨?_, ?_⟩
  · rintro ⟨φ, stands, holds⟩
    refine ⟨φ, stands, ?_⟩
    cases φ with
    | taken i =>
      obtain rfl := Option.some.inj holds
      exact .inl rfl
    | working i q =>
      obtain rfl := Option.some.inj holds
      obtain ⟨xs, leaves⟩ := courses i q stands
      exact .inr (.inl ⟨xs, q, rfl, leaves⟩)
    | finished i o =>
      obtain rfl := Option.some.inj holds
      exact .inr (.inr ⟨o, rfl⟩)
    | crashed i =>
      obtain rfl := Option.some.inj holds
      exact (whole stands).elim
    | starting | idle | reporting | leaving | gone => cases holds
  · rintro ⟨φ, stands, rfl | ⟨xs, q, rfl, leaves⟩ | ⟨o, rfl⟩⟩ <;> exact ⟨_, stands, rfl⟩

theorem enqueue_of_rejected {p : Pool} (rejected : (p.enqueue id).1 ≠ .enqueued) :
    (p.enqueue id).2.buffer = p.buffer ∧ (p.enqueue id).2.tracked = p.tracked := by
  rcases enqueue_cases p id with ⟨accepted, _⟩ | ⟨_, hp⟩ | ⟨_, _, hp⟩
  · exact (rejected accepted).elim
  · rw [hp]
    exact ⟨rfl, rfl⟩
  · rw [hp]
    exact ⟨rfl, rfl⟩

/-- How a meeting is answered that is offered, and what comes of it. -/
structure Admission (w : World) (id : Uuid) : Prop where
  closed : (w.pool.enqueue id).1 = .closed ↔ w.pool.isOpen = false
  duplicate : (w.pool.enqueue id).1 = .duplicate ↔
    w.pool.isOpen = true ∧ (id ∈ w.pool.buffer ∨ id ∈ w.pool.held)
  dropped : (w.pool.enqueue id).1 = .dropped ↔
    w.pool.isOpen = true ∧ ¬(id ∈ w.pool.buffer ∨ id ∈ w.pool.held) ∧
      w.pool.buffer.length = w.pool.settings.bufferSize
  enqueued : (w.pool.enqueue id).1 = .enqueued ↔
    w.pool.isOpen = true ∧ ¬(id ∈ w.pool.buffer ∨ id ∈ w.pool.held) ∧
      w.pool.buffer.length < w.pool.settings.bufferSize
  held : .crashed id ∉ w.pool.workers → (id ∈ w.pool.held ↔ ∃ φ ∈ w.pool.workers,
    φ = .taken id ∨ (∃ xs q, φ = .working id q ∧ (Job.process id).Leaves xs q) ∨
      ∃ o, φ = .finished id o)
  accepts : (w.pool.enqueue id).1 = .enqueued →
    (w.act (.enqueue id)).pool.buffer = w.pool.buffer ++ [id]
  rejects : (w.pool.enqueue id).1 ≠ .enqueued →
    (w.act (.enqueue id)).pool.buffer = w.pool.buffer ∧
      (w.act (.enqueue id)).pool.tracked = w.pool.tracked ∧
      (w.act (.enqueue id)).backend = w.backend
  /-- Who was dropped is accepted as soon as there is room. -/
  again : (w.pool.enqueue id).1 = .dropped → ∀ since,
    id ∉ (w.act (.enqueue id)).notes (World.offered? .enqueued) since →
    (w.run (.enqueue id :: since)).pool.isOpen = true →
    (w.run (.enqueue id :: since)).pool.buffer.length < w.pool.settings.bufferSize →
    ((w.run (.enqueue id :: since)).pool.enqueue id).1 = .enqueued
  /-- Once the end of the job is told that a worker is at, the meeting is no duplicate until it has
  been accepted again. -/
  told : ∀ v φ o since later, w.pool.workers[v]? = some φ → φ.held? = some id →
    (w.run since).pool.workers[v]? = some (.reporting id o) →
    ((w.run since).act (.report v)).pool.events =
        (w.run since).pool.events ++ [.ofOutcome id o] ∧
      (((w.run (since ++ .report v :: later)).pool.enqueue id).1 = .duplicate →
        id ∈ w.notes (World.offered? .enqueued) (since ++ .report v :: later))

theorem settings_run (w : World) (actions : List Action) :
    (w.run actions).pool.settings = w.pool.settings := by
  refine w.run_keeps (J := fun w' => w'.pool.settings = w.pool.settings) rfl ?_ actions
  intro w' w'' d same change
  rw [← same]
  cases change with
  | still same' => exact same'.settings
  | _ => rfl

private theorem untracked_of_reporting {o : Job.Outcome} {since later : List Action}
    (tracking : Tracking w.pool) (stands : w.pool.workers[v]? = some φ) (holds : φ.held? = some id)
    (reporting : (w.run since).pool.workers[v]? = some (.reporting id o))
    (unaccepted : id ∉ w.notes (World.offered? .enqueued) (since ++ later)) :
    id ∉ (w.run (since ++ later)).pool.tracked := by
  rw [notes_append, List.mem_append, not_or] at unaccepted
  have tracking' := tracking_run tracking since
  have untracked : id ∉ (w.run since).pool.tracked := by
    rcases holds_run tracking stands holds unaccepted.1 with ⟨ψ, stands', holds'⟩ | untracked
    · obtain rfl := Option.some.inj (stands'.symm.trans reporting)
      cases holds'
    · exact untracked
  rw [World.run_append]
  exact untracked_run tracking' untracked unaccepted.2

private theorem Known.admission (known : Known w) (id : Uuid) : Admission w id := by
  have tracking := known.tracking
  have tracks : id ∈ w.pool.tracked ↔ id ∈ w.pool.buffer ∨ id ∈ w.pool.held :=
    tracking.tracked.mem_iff.trans List.mem_append
  constructor
  case closed => exact enqueue_eq_closed_iff _ _
  case duplicate => rw [enqueue_eq_duplicate_iff, tracks]
  case dropped =>
    rw [enqueue_eq_dropped_iff, tracks]
    have full : w.pool.settings.bufferSize ≤ w.pool.buffer.length ↔
        w.pool.buffer.length = w.pool.settings.bufferSize :=
      ⟨Nat.le_antisymm tracking.room, fun h => Nat.le_of_eq h.symm⟩
    rw [full]
  case enqueued => rw [enqueue_eq_enqueued_iff, tracks]
  case held => exact mem_held_iff known.courses
  case accepts =>
    intro accepted
    rcases enqueue_cases w.pool id with ⟨_, hp⟩ | ⟨dropped, _⟩ | ⟨rejected, _, _⟩
    · exact congrArg Pool.buffer hp
    · rw [accepted] at dropped
      cases dropped
    · exact (rejected accepted).elim
  case rejects =>
    intro rejected
    obtain ⟨buffer, tracked⟩ := enqueue_of_rejected rejected
    exact ⟨buffer, tracked, rfl⟩
  case again =>
    intro dropped since unaccepted isOpen room
    have untracked : id ∉ (w.act (.enqueue id)).pool.tracked := by
      have same : (w.act (.enqueue id)).pool.tracked = w.pool.tracked :=
        (enqueue_of_rejected (by simp [dropped])).2
      rw [same]
      exact ((enqueue_eq_dropped_iff _ _).mp dropped).2.1
    have later := untracked_run (tracking_act tracking (.enqueue id)) untracked unaccepted
    rw [← settings_run w (.enqueue id :: since)] at room
    exact (enqueue_eq_enqueued_iff _ _).mpr ⟨isOpen, later, room⟩
  case told =>
    intro v φ o since later stands holds reporting
    refine ⟨by simp [World.act, report?, reporting, World.onPool, setPhase], fun again => ?_⟩
    by_contra unaccepted
    exact untracked_of_reporting tracking stands holds reporting unaccepted
      ((enqueue_eq_duplicate_iff _ _).mp again).2

/-- In every run of a pool, whatever its settings and whatever happens in whatever order: the queue
is closed if a call to stop has closed it, and a meeting that is offered is answered accordingly. -/
theorem admission_run (settings : Settings) (b : Backend) (actions : List Action) (id : Uuid) :
    ((World.opened settings b).run actions).pool.settings = settings.clamped ∧
      (((World.opened settings b).run actions).pool.isOpen = false ↔
        ∃ before a after, actions = before ++ a :: after ∧
          ((World.opened settings b).run before).IsClosing a) ∧
      Admission ((World.opened settings b).run actions) id := by
  refine ⟨settings_run _ actions, ?_, (known_run (known_opened settings b) actions).admission id⟩
  rw [isOpen_run]
  have isOpen : (World.opened settings b).pool.isOpen ≠ false := by simp [World.opened, Pool.new]
  exact or_iff_right isOpen

/-- The meeting that a worker has dequeued and whose job is not over. -/
def Phase.underWay? : Phase → Option Uuid
  | .taken id | .working id _ => some id
  | _ => none

/-- The job of a worker is over and its meeting still tracked. -/
def finishedInJob : List Action :=
  [.markStart, .testStart, .spawn, .announce 0, .enqueue ⟨1⟩, .take 0, .startJob 0] ++
    List.replicate 6 (.work 0 fun _ _ => .ok [])

/-- A meeting whose job is over is answered as a duplicate as long as it is tracked, and one in whose
job the provider has crashed still is when all workers have ended. -/
theorem not_all_duplicates_are_under_way :
    (¬ ∀ (settings : Settings) (b : Backend) (actions : List Action) (id : Uuid),
      (((World.opened settings b).run actions).pool.enqueue id).1 = .duplicate →
      id ∈ ((World.opened settings b).run actions).pool.buffer ∨
        ∃ φ ∈ ((World.opened settings b).run actions).pool.workers, φ.underWay? = some id) ∧
    ¬ ∀ (settings : Settings) (b : Backend) (actions : List Action) (id : Uuid),
      (((World.opened settings b).run actions).pool.enqueue id).1 = .duplicate →
      (∀ φ ∈ ((World.opened settings b).run actions).pool.workers, φ.isOver = true) →
      id ∈ ((World.opened settings b).run actions).pool.buffer := by
  constructor
  · intro h
    have underWay := h ⟨1, 1, 1⟩ .oneQueued finishedInJob ⟨1⟩ (by decide +kernel)
    revert underWay
    decide +kernel
  · intro h
    have waits := h ⟨1, 1, 1⟩ .oneQueued crashedInJob ⟨1⟩ (by decide +kernel) (by decide +kernel)
    revert waits
    decide +kernel

end MeetingInsights.Pool
