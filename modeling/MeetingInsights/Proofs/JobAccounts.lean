import MeetingInsights.Proofs.PoolTracking
import MeetingInsights.Proofs.Statuses

/-! # The accounts of a pool

Every meeting that a pool accepts waits or has been dequeued, in the order of acceptance, and every
job that has been started has been told to have ended or is with one worker.
-/

namespace MeetingInsights.Pool

namespace Event

def starts (id : Uuid) : Event → Bool
  | .jobStarted meeting _ => meeting = id
  | _ => false

def ends (id : Uuid) : Event → Bool
  | .jobCompleted meeting _ _ | .jobFailed meeting _ | .jobSkipped meeting => meeting = id
  | _ => false

theorem starts_ofOutcome (id meeting : Uuid) (o : Job.Outcome) :
    (ofOutcome meeting o).starts id = false := by
  cases o <;> rfl

theorem ends_ofOutcome (id meeting : Uuid) (o : Job.Outcome) :
    (ofOutcome meeting o).ends id = decide (meeting = id) := by
  cases o <;> rfl

theorem count_ofOutcome {e : Event} (h : ∀ id, e.ends id = false) (meeting : Uuid)
    (o : Job.Outcome) : [ofOutcome meeting o].count e = 0 := by
  refine List.count_eq_zero.mpr fun he => ?_
  have ended := h meeting
  rw [List.mem_singleton.mp he, ends_ofOutcome, decide_eq_false_iff_not] at ended
  exact ended rfl

end Event

namespace Phase

/-- The meeting that a worker has taken and whose job it has not told to start. -/
def taken? : Phase → Option Uuid
  | .taken meeting => some meeting
  | _ => none

/-- The meeting whose job a worker has told to start and not to end. -/
def unended? : Phase → Option Uuid
  | .working meeting _ | .finished meeting _ | .reporting meeting _ | .crashed meeting => some meeting
  | _ => none

def crashed? : Phase → Option Uuid
  | .crashed meeting => some meeting
  | _ => none

def isAnnounced : Phase → Bool
  | .starting => false
  | _ => true

def isGone : Phase → Bool
  | .gone => true
  | _ => false

private theorem unended?_of_isOver {φ : Phase} (h : φ.isOver = true) : φ.unended? = φ.crashed? := by
  cases φ with
  | gone | crashed => rfl
  | starting | idle | taken | working | finished | reporting | leaving => cases h

theorem taken?_of_isOver {φ : Phase} (h : φ.isOver = true) : φ.taken? = none := by
  cases φ with
  | gone | crashed => rfl
  | starting | idle | taken | working | finished | reporting | leaving => cases h

private theorem isAnnounced_of_isOver {φ : Phase} (h : φ.isOver = true) : φ.isAnnounced = true := by
  cases φ with
  | gone | crashed => rfl
  | starting | idle | taken | working | finished | reporting | leaving => cases h

end Phase

/-- The meeting that a worker has dequeued, given its phases before and after. -/
def dequeuedBetween? : Option Phase → Option Phase → Option Uuid
  | some .idle, some (.taken meeting) => some meeting
  | _, _ => none

theorem dequeuedBetween?_self (φ : Option Phase) : dequeuedBetween? φ φ = none := by
  rcases φ with _ | φ
  · rfl
  · cases φ <;> rfl

namespace World

/-- The meeting that an action offers to the queue with this outcome. -/
def offered? (outcome : EnqueueOutcome) (w : World) : Action → Option Uuid
  | .enqueue id => if (w.pool.enqueue id).1 = outcome then some id else none
  | _ => none

def dequeued? (w : World) (a : Action) : Option Uuid :=
  match a with
  | .take v | .takeLate v => dequeuedBetween? w.pool.workers[v]? (w.act a).pool.workers[v]?
  | _ => none

/-- What is noted of each action, in order. -/
def notes (note? : World → Action → Option Uuid) (w : World) : List Action → List Uuid
  | [] => []
  | a :: actions => (note? w a).toList ++ (w.act a).notes note? actions

end World

/-- The ways of a worker from one phase to the next with its events, other than to dequeue. -/
inductive Shifts (a : Action) (v : Nat) : Phase → Phase → List Event → Prop where
  | announce : Shifts a v .starting .idle [.workerStarted v]
  | withdraw : Shifts a v .idle .leaving []
  | start {id} (turn : a = .startJob v) :
      Shifts a v (.taken id) (.working id (Job.process id)) [.jobStarted id v]
  | answer {id c next provider} (r : Call.Answer c) (turn : a = .work v provider) :
      Shifts a v (.working id (.call c next)) (.working id (next r)) []
  | conclude {id o provider} (turn : a = .work v provider) :
      Shifts a v (.working id (.done o)) (.finished id o) []
  | crash {id m roster next} (turn : a = .crash v) :
      Shifts a v (.working id (.call (.extract m roster) next)) (.crashed id) []
  | untrack {id o} (turn : a = .untrack v) : Shifts a v (.finished id o) (.reporting id o) []
  | report {id o} (turn : a = .report v) : Shifts a v (.reporting id o) .idle [.ofOutcome id o]
  | leave : Shifts a v .leaving .gone [.workerStopped v]

/-- What an action does, given the meetings that it accepts, drops and dequeues. -/
inductive Serves (p : Pool) (a : Action) :
    Option Uuid → Option Uuid → Option Uuid → Pool → Prop where
  | rest {q} (buffer : q.buffer = p.buffer) (workers : q.workers = p.workers)
      (events : q.events = p.events) : Serves p a none none none q
  | accept {q id} (buffer : q.buffer = p.buffer ++ [id]) (workers : q.workers = p.workers)
      (events : q.events = p.events) : Serves p a (some id) none none q
  | drop {q id} (buffer : q.buffer = p.buffer) (workers : q.workers = p.workers)
      (events : q.events = p.events ++ [.jobDropped id]) : Serves p a none (some id) none q
  | dequeue {q v id} (stands : p.workers[v]? = some .idle) (buffer : p.buffer = id :: q.buffer)
      (workers : q.workers = p.workers.set v (.taken id)) (events : q.events = p.events) :
      Serves p a none none (some id) q
  | spawn {q n} (buffer : q.buffer = p.buffer)
      (workers : q.workers = p.workers ++ List.replicate n .starting)
      (events : q.events = p.events) : Serves p a none none none q
  | shift {q v φ ψ es} (stands : p.workers[v]? = some φ) (shifts : Shifts a v φ ψ es)
      (buffer : q.buffer = p.buffer) (workers : q.workers = p.workers.set v ψ)
      (events : q.events = p.events ++ es) : Serves p a none none none q

variable {p q : Pool} {v : Nat} {w : World} {a : Action}

theorem SameQueue.serves (h : SameQueue p q) : Serves p a none none none q :=
  .rest h.buffer h.workers h.events

theorem enqueue_cases (p : Pool) (id : Uuid) :
    ((p.enqueue id).1 = .enqueued ∧
        (p.enqueue id).2 = { p with buffer := p.buffer ++ [id], tracked := id :: p.tracked }) ∨
      ((p.enqueue id).1 = .dropped ∧ (p.enqueue id).2 = p.emit (.jobDropped id)) ∨
      ((p.enqueue id).1 ≠ .enqueued ∧ (p.enqueue id).1 ≠ .dropped ∧ (p.enqueue id).2 = p) := by
  unfold enqueue
  split
  · simp
  · split
    · simp
    · split <;> simp

theorem Turns.serves (h : Turns p v q) :
    Serves p a none none (dequeuedBetween? p.workers[v]? q.workers[v]?) q := by
  have after : ∀ φ, p.workers[v]? = some .idle → (p.workers.set v φ)[v]? = some φ := fun φ stands =>
    List.getElem?_set_self (List.getElem?_eq_some_iff.mp stands).1
  cases h with
  | withdraws stands =>
    simp only [moved, setPhase, after _ stands, stands]
    exact .shift stands .withdraw rfl rfl rfl
  | takes stands head =>
    simp only [moved, setPhase, after _ stands, stands]
    exact .dequeue stands head rfl (List.append_nil _)

namespace World

theorem serves_onPool {p? : Option Pool}
    (h : ∀ q, p? = some q → Serves w.pool a none none none q) :
    Serves w.pool a none none none (w.onPool p?).pool := by
  cases p? with
  | none => exact .rest rfl rfl rfl
  | some q => exact h q rfl

theorem serves_turn {p? : Option Pool} (h : ∀ q, p? = some q → Turns w.pool v q) :
    Serves w.pool a none none
      (dequeuedBetween? w.pool.workers[v]? (w.onPool p?).pool.workers[v]?) (w.onPool p?).pool := by
  cases p? with
  | none =>
    rw [show w.onPool none = w from rfl, dequeuedBetween?_self]
    exact .rest rfl rfl rfl
  | some q => exact (h q rfl).serves

private theorem serves_enqueue (id : Uuid) :
    Serves w.pool a (w.offered? .enqueued (.enqueue id)) (w.offered? .dropped (.enqueue id)) none
      (w.pool.enqueue id).2 := by
  rcases enqueue_cases w.pool id with ⟨h, hp⟩ | ⟨h, hp⟩ | ⟨accepted, dropped, hp⟩
  · simp only [offered?, h, hp]
    exact .accept rfl rfl rfl
  · simp only [offered?, h, hp]
    exact .drop rfl rfl rfl
  · simp only [offered?, if_neg accepted, if_neg dropped, hp]
    exact .rest rfl rfl rfl

private theorem serves_work (v : Nat) (provider : Provider) :
    Serves w.pool (.work v provider) none none none (w.act (.work v provider)).pool := by
  simp only [act, work?]
  cases hv : w.pool.workers[v]? with
  | none => exact .rest rfl rfl rfl
  | some φ =>
    cases φ with
    | working id job =>
      cases job with
      | call c next => exact .shift hv (.answer _ rfl) rfl rfl (List.append_nil _).symm
      | done o => exact .shift hv (.conclude rfl) rfl rfl (List.append_nil _).symm
    | starting | idle | taken | finished | reporting | leaving | gone | crashed =>
      exact .rest rfl rfl rfl

private theorem serves_crash (v : Nat) :
    Serves w.pool (.crash v) none none none (w.act (.crash v)).pool := by
  simp only [act, nextCall?, crash?]
  cases hv : w.pool.workers[v]? with
  | none => exact .rest rfl rfl rfl
  | some φ =>
    cases φ with
    | working id job =>
      cases job with
      | call c next =>
        cases c with
        | extract m roster => exact .shift hv (.crash rfl) rfl rfl (List.append_nil _).symm
        | createMeeting | fetchMeeting | updateStatus | idsByStatus | createOpportunity | roster
        | findTheme | createTheme | addEvidence => exact .rest rfl rfl rfl
      | done o => exact .rest rfl rfl rfl
    | starting | idle | taken | finished | reporting | leaving | gone | crashed =>
      exact .rest rfl rfl rfl

theorem serves_act (w : World) (a : Action) :
    Serves w.pool a (w.offered? .enqueued a) (w.offered? .dropped a) (w.dequeued? a)
      (w.act a).pool := by
  cases a with
  | enqueue id => exact serves_enqueue id
  | markStart =>
    simp only [act, markStarted]
    cases w.pool.isStarted <;> exact .rest rfl rfl rfl
  | testStart =>
    simp only [act]
    split <;> exact .rest rfl rfl rfl
  | spawn =>
    simp only [act]
    split
    · exact .spawn rfl rfl rfl
    · exact .rest rfl rfl rfl
  | announce v =>
    refine serves_onPool fun q hq => ?_
    obtain ⟨hv, rfl⟩ := announce?_eq_some hq
    exact .shift hv .announce rfl rfl rfl
  | take v => exact serves_turn fun q => takeNext?_eq_some
  | takeLate v => exact serves_turn fun q => takeLate?_eq_some
  | startJob v =>
    refine serves_onPool fun q hq => ?_
    obtain ⟨id, hv, rfl⟩ := startJob?_eq_some hq
    exact .shift hv (.start rfl) rfl rfl rfl
  | work v provider => exact serves_work v provider
  | crash v => exact serves_crash v
  | untrack v =>
    refine serves_onPool fun q hq => ?_
    obtain ⟨id, o, hv, rfl⟩ := untrack?_eq_some hq
    exact .shift hv (.untrack rfl) rfl rfl rfl
  | report v =>
    refine serves_onPool fun q hq => ?_
    obtain ⟨id, o, hv, rfl⟩ := report?_eq_some hq
    exact .shift hv (.report rfl) rfl rfl rfl
  | leave v =>
    refine serves_onPool fun q hq => ?_
    obtain ⟨hv, rfl⟩ := leave?_eq_some hq
    exact .shift hv .leave rfl rfl rfl
  | endTicker => exact serves_onPool fun q hq => (endTicker?_eq_some hq).serves
  | callStop => exact .rest rfl rfl rfl
  | stopStep k => exact serves_onPool fun q hq => (stopStep?_eq_some hq).serves
  | cancelStop k => exact serves_onPool fun q hq => (cancelStop?_eq_some hq).serves
  | elsewhere b => exact .rest rfl rfl rfl

theorem serves_some (w : World) (a : Action) :
    ∃ accepted dropped dequeued, Serves w.pool a accepted dropped dequeued (w.act a).pool :=
  ⟨_, _, _, serves_act w a⟩

/-- What all that the actions do keeps holds after them. -/
theorem run_serves {J : Pool → Prop} {actions : List Action} (initial : J w.pool)
    (keep : ∀ {p q a accepted dropped dequeued}, a ∈ actions → J p →
      Serves p a accepted dropped dequeued q → J q) : J (w.run actions).pool := by
  induction actions generalizing w with
  | nil => exact initial
  | cons a actions ih =>
    have step : J (w.act a).pool := keep List.mem_cons_self initial (serves_act w a)
    exact ih step fun ha => keep (List.mem_cons_of_mem _ ha)

end World

section Step

variable {accepted dropped dequeued : Option Uuid}

theorem Serves.queue (h : Serves p a accepted dropped dequeued q) :
    p.buffer ++ accepted.toList = dequeued.toList ++ q.buffer := by
  cases h with
  | rest buffer | drop buffer | spawn buffer | shift _ _ buffer | accept buffer
  | dequeue _ buffer => simp [buffer]

theorem Serves.drops (h : Serves p a accepted dropped dequeued q) (id : Uuid) :
    q.events.count (.jobDropped id) = p.events.count (.jobDropped id) + dropped.toList.count id := by
  have silent : ∀ {v φ ψ es}, Shifts a v φ ψ es → es.count (.jobDropped id) = 0 := by
    intro v φ ψ es shifts
    cases shifts with
    | report => exact Event.count_ofOutcome (fun _ => rfl) _ _
    | announce | start | leave => simp
    | withdraw | answer | conclude | crash | untrack => rfl
  cases h with
  | rest _ _ events | accept _ _ events | spawn _ _ events => simp [events]
  | drop _ _ events =>
    rw [events, List.count_append, List.count_singleton, Option.toList_some, List.count_singleton]
    simp
  | dequeue _ _ _ events => simp [events]
  | shift _ shifts _ _ events => simp [events, silent shifts]

end Step

namespace World

/-- What waited and what has been accepted is what has been dequeued and what waits. -/
theorem queue_run (w : World) (actions : List Action) :
    w.pool.buffer ++ w.notes (offered? .enqueued) actions =
      w.notes dequeued? actions ++ (w.run actions).pool.buffer := by
  induction actions generalizing w with
  | nil => exact List.append_nil _
  | cons a actions ih =>
    have step := (serves_act w a).queue
    calc w.pool.buffer ++ ((w.offered? .enqueued a).toList ++ (w.act a).notes _ actions)
      _ = (w.dequeued? a).toList ++ ((w.act a).pool.buffer ++ (w.act a).notes _ actions) := by
        rw [← List.append_assoc, step, List.append_assoc]
      _ = (w.dequeued? a).toList ++ ((w.act a).notes dequeued? actions ++
            ((w.act a).run actions).pool.buffer) := by rw [ih]
      _ = w.notes dequeued? (a :: actions) ++ (w.run (a :: actions)).pool.buffer :=
        (List.append_assoc _ _ _).symm

private theorem drops_run (w : World) (actions : List Action) (id : Uuid) :
    (w.run actions).pool.events.count (.jobDropped id) =
      w.pool.events.count (.jobDropped id) + (w.notes (offered? .dropped) actions).count id := by
  induction actions generalizing w with
  | nil => rfl
  | cons a actions ih =>
    have step := (serves_act w a).drops id
    have rest := ih (w.act a)
    rw [notes, List.count_append]
    change ((w.act a).run actions).pool.events.count _ = _
    omega

end World

private theorem countP_set (f : Phase → Bool) {φ ψ : Phase} (stands : p.workers[v]? = some φ)
    (workers : q.workers = p.workers.set v ψ) :
    q.workers.countP f + (f φ).toNat = p.workers.countP f + (f ψ).toNat := by
  obtain ⟨before, after, hp, hset⟩ := workers_split stands
  have hq : q.workers = before ++ ψ :: after := workers.trans (hset ψ [])
  have count : ∀ χ : Phase, (before ++ χ :: after).countP f =
      (before ++ after).countP f + (f χ).toNat := by
    intro χ
    rw [List.countP_append, List.countP_append, List.countP_cons, Nat.add_assoc]
    congr 2
    cases f χ <;> rfl
  rw [hp, hq, count, count]
  omega

/-- The jobs of a meeting that have been started are those told to have ended and those with workers. -/
def Balanced (id : Uuid) (p : Pool) : Prop :=
  p.events.countP (Event.starts id) =
    p.events.countP (Event.ends id) + p.workers.countP fun φ => φ.unended? = some id

theorem Balanced.set {id : Uuid} (h : Balanced id p) {φ ψ : Phase} {es : List Event}
    (stands : p.workers[v]? = some φ) (workers : q.workers = p.workers.set v ψ)
    (events : q.events = p.events ++ es)
    (even : es.countP (Event.starts id) + (decide (φ.unended? = some id)).toNat =
      es.countP (Event.ends id) + (decide (ψ.unended? = some id)).toNat) : Balanced id q := by
  have count := countP_set (fun φ => φ.unended? = some id) stands workers
  unfold Balanced at h ⊢
  rw [events, List.countP_append, List.countP_append]
  omega

private theorem Shifts.balance {φ ψ : Phase} {es : List Event} (h : Shifts a v φ ψ es) (id : Uuid) :
    es.countP (Event.starts id) + (decide (φ.unended? = some id)).toNat =
      es.countP (Event.ends id) + (decide (ψ.unended? = some id)).toNat := by
  cases h with
  | @start meeting =>
    simp only [List.countP_singleton, Event.starts, Event.ends, Phase.unended?, Option.some_inj]
    by_cases same : meeting = id <;> simp [same]
  | @report meeting o =>
    simp only [List.countP_singleton, Event.starts_ofOutcome, Event.ends_ofOutcome,
      Phase.unended?, Option.some_inj]
    by_cases same : meeting = id <;> simp [same]
  | announce | withdraw | answer | conclude | crash | untrack | leave => rfl

theorem Balanced.serves {id : Uuid} {accepted dropped dequeued : Option Uuid} (h : Balanced id p)
    (serves : Serves p a accepted dropped dequeued q) : Balanced id q := by
  cases serves with
  | rest _ workers events | accept _ workers events =>
    unfold Balanced
    rw [workers, events]
    exact h
  | drop _ workers events =>
    unfold Balanced at h ⊢
    rw [workers, events, List.countP_append, List.countP_append]
    exact h
  | dequeue stands _ workers events =>
    exact h.set stands workers (events.trans (List.append_nil _).symm) rfl
  | spawn _ workers events =>
    have idle : ∀ n, (List.replicate n Phase.starting).countP (fun φ => φ.unended? = some id) = 0 :=
      fun n => by simp [List.countP_replicate, Phase.unended?]
    unfold Balanced
    rw [workers, events, List.countP_append, idle]
    exact h
  | shift stands shifts _ workers events => exact h.set stands workers events (shifts.balance id)

theorem Shifts.starting {φ ψ : Phase} {es : List Event} (h : Shifts a v φ ψ es) (id : Uuid) :
    es.countP (Event.starts id) + (decide (ψ.taken? = some id)).toNat =
      (decide (φ.taken? = some id)).toNat := by
  cases h with
  | @start meeting =>
    simp only [List.countP_singleton, Event.starts, Phase.taken?, Option.some_inj]
    by_cases same : meeting = id <;> simp [same]
  | report =>
    rw [List.countP_singleton, Event.starts_ofOutcome]
    rfl
  | announce | withdraw | answer | conclude | crash | untrack | leave => rfl

theorem Serves.starts {accepted dropped dequeued : Option Uuid}
    (h : Serves p a accepted dropped dequeued q) (id : Uuid) :
    q.events.countP (Event.starts id) + q.workers.countP (fun φ => φ.taken? = some id) =
      p.events.countP (Event.starts id) + p.workers.countP (fun φ => φ.taken? = some id) +
        dequeued.toList.count id := by
  cases h with
  | rest _ workers events | accept _ workers events =>
    rw [workers, events]
    rfl
  | drop _ workers events =>
    rw [workers, events, List.countP_append]
    rfl
  | @dequeue _ _ meeting stands _ workers events =>
    have count := countP_set (fun φ => φ.taken? = some id) stands workers
    rw [events, Option.toList_some, List.count_singleton, Nat.add_assoc]
    refine congrArg _ (count.trans (congrArg _ ?_))
    by_cases same : meeting = id <;> simp [Phase.taken?, same]
  | spawn _ workers events =>
    have idle : ∀ n, (List.replicate n Phase.starting).countP (fun φ => φ.taken? = some id) = 0 :=
      fun n => by simp [List.countP_replicate, Phase.taken?]
    rw [workers, events, List.countP_append, idle]
    rfl
  | shift stands shifts _ workers events =>
    have count := countP_set (fun φ => φ.taken? = some id) stands workers
    have even := shifts.starting id
    rw [events, List.countP_append, Option.toList_none, List.count_nil]
    omega

/-- Each time that a meeting is dequeued its job is told to start, or a worker has still to tell it. -/
theorem World.starts_run (w : World) (actions : List Action) (id : Uuid) :
    (w.run actions).pool.events.countP (Event.starts id) +
        (w.run actions).pool.workers.countP (fun φ => φ.taken? = some id) =
      w.pool.events.countP (Event.starts id) + w.pool.workers.countP (fun φ => φ.taken? = some id) +
        (w.notes dequeued? actions).count id := by
  induction actions generalizing w with
  | nil => rfl
  | cons a actions ih =>
    have step := (serves_act w a).starts id
    have rest := ih (w.act a)
    rw [notes, List.count_append]
    change ((w.act a).run actions).pool.events.countP _ +
      ((w.act a).run actions).pool.workers.countP _ = _
    omega

/-- An event that each worker tells once, on its way into the phases where it has told it. -/
structure ToldOnce (tell : Nat → Event) (has : Phase → Bool) : Prop where
  starting : has .starting = false
  dropping : ∀ v id, tell v ≠ .jobDropped id
  dequeued : ∀ id, has (.taken id) = has .idle
  shifting : ∀ {a v φ ψ es}, Shifts a v φ ψ es → (has ψ).toNat = (has φ).toNat + es.count (tell v)
  apart : ∀ {a v φ ψ es u}, Shifts a v φ ψ es → u ≠ v → es.count (tell u) = 0

/-- The events that the workers have told. -/
def Told (tell : Nat → Event) (has : Phase → Bool) (p : Pool) : Prop :=
  ∀ v, p.events.count (tell v) = (p.workers[v]?.any has).toNat

variable {tell : Nat → Event} {has : Phase → Bool}

theorem Told.set (h : Told tell has p) {φ ψ : Phase} {es : List Event}
    (stands : p.workers[v]? = some φ) (workers : q.workers = p.workers.set v ψ)
    (events : q.events = p.events ++ es) (own : (has ψ).toNat = (has φ).toNat + es.count (tell v))
    (apart : ∀ u, u ≠ v → es.count (tell u) = 0) : Told tell has q := by
  intro u
  have before := h u
  rw [workers, events, List.count_append, before]
  obtain ⟨hv, _⟩ := List.getElem?_eq_some_iff.mp stands
  by_cases same : u = v
  · subst same
    rw [List.getElem?_set_self hv, stands, Option.any_some, Option.any_some, own]
  · rw [List.getElem?_set_ne (Ne.symm same), apart u same, Nat.add_zero]

theorem Told.serves (once : ToldOnce tell has) {accepted dropped dequeued : Option Uuid}
    (h : Told tell has p) (serves : Serves p a accepted dropped dequeued q) : Told tell has q := by
  cases serves with
  | rest _ workers events | accept _ workers events =>
    intro u
    rw [workers, events]
    exact h u
  | drop _ workers events =>
    intro u
    rw [workers, events, List.count_append, List.count_singleton, h u]
    simp [(once.dropping u _).symm]
  | dequeue stands _ workers events =>
    refine h.set stands workers (events.trans (List.append_nil _).symm) ?_ fun u _ => rfl
    rw [once.dequeued]
    rfl
  | spawn _ workers events =>
    intro u
    rw [workers, events, h u, List.getElem?_append]
    split
    · rfl
    · rename_i late
      rw [List.getElem?_eq_none (Nat.le_of_not_lt late), List.getElem?_replicate]
      split
      · rw [Option.any_none, Option.any_some, once.starting]
      · rfl
  | shift stands shifts _ workers events =>
    exact h.set stands workers events (once.shifting shifts) fun u => once.apart shifts

private theorem toldOnce_workerStarted : ToldOnce .workerStarted Phase.isAnnounced where
  starting := rfl
  dropping := nofun
  dequeued _ := rfl
  shifting h := by
    cases h with
    | report => rw [Event.count_ofOutcome fun _ => rfl]; rfl
    | announce | start | leave => simp [Phase.isAnnounced]
    | withdraw | answer | conclude | crash | untrack => rfl
  apart h hne := by
    cases h with
    | report => exact Event.count_ofOutcome (fun _ => rfl) _ _
    | announce | start | leave => simp [hne.symm]
    | withdraw | answer | conclude | crash | untrack => rfl

private theorem toldOnce_workerStopped : ToldOnce .workerStopped Phase.isGone where
  starting := rfl
  dropping := nofun
  dequeued _ := rfl
  shifting h := by
    cases h with
    | report => rw [Event.count_ofOutcome fun _ => rfl]; rfl
    | announce | start | leave => simp [Phase.isGone]
    | withdraw | answer | conclude | crash | untrack => rfl
  apart h hne := by
    cases h with
    | report => exact Event.count_ofOutcome (fun _ => rfl) _ _
    | announce | start | leave => simp [hne.symm]
    | withdraw | answer | conclude | crash | untrack => rfl

/-- Without a crash of the provider no worker has ended in the middle of a job. -/
theorem crashed?_run {actions : List Action} (sound : ∀ v, .crash v ∉ actions)
    (initial : ∀ φ ∈ w.pool.workers, φ.crashed? = none) :
    ∀ φ ∈ (w.run actions).pool.workers, φ.crashed? = none := by
  refine w.run_serves (J := fun p => ∀ φ ∈ p.workers, φ.crashed? = none) initial ?_
  intro p q a _ _ _ ha h serves
  have set : ∀ {v ψ}, ψ.crashed? = none → ∀ φ ∈ p.workers.set v ψ, φ.crashed? = none :=
    fun hψ φ hφ => (List.mem_or_eq_of_mem_set hφ).elim (h φ) fun same => same ▸ hψ
  cases serves with
  | rest _ workers | accept _ workers | drop _ workers => rwa [workers]
  | dequeue _ _ workers =>
    rw [workers]
    exact set rfl
  | spawn _ workers =>
    rw [workers]
    intro φ hφ
    rcases List.mem_append.mp hφ with hφ | hφ
    · exact h φ hφ
    · rw [List.eq_of_mem_replicate hφ]
      rfl
  | shift _ shifts _ workers =>
    rw [workers]
    refine set ?_
    cases shifts with
    | crash turn => exact (sound _ (turn ▸ ha)).elim
    | announce | withdraw | start | answer | conclude | untrack | report | leave => rfl

/-- The accounts of a pool whose workers have all ended. Only a worker in whose job the provider has
crashed has not told the end of it, nor that it stopped. -/
structure Closed (p : Pool) : Prop where
  jobs : ∀ id, p.events.countP (Event.starts id) =
    p.events.countP (Event.ends id) + p.workers.countP fun φ => φ.crashed? = some id
  started : ∀ v < p.workers.length, p.events.count (.workerStarted v) = 1
  stopped : ∀ v φ, p.workers[v]? = some φ →
    p.events.count (.workerStopped v) = if φ.crashed? = none then 1 else 0

private theorem closed_of_told {p : Pool} (allOver : ∀ φ ∈ p.workers, φ.isOver = true)
    (jobs : ∀ id, Balanced id p) (started : Told .workerStarted Phase.isAnnounced p)
    (stopped : Told .workerStopped Phase.isGone p) : Closed p where
  jobs id := by
    rw [jobs id]
    congr 1
    refine List.countP_congr fun φ hφ => ?_
    rw [Phase.unended?_of_isOver (allOver φ hφ)]
  started v hv := by
    have ended := allOver _ (List.getElem_mem hv)
    rw [started v, List.getElem?_eq_getElem hv, Option.any_some, Phase.isAnnounced_of_isOver ended]
    rfl
  stopped v φ hφ := by
    have ended := allOver φ (List.mem_of_getElem? hφ)
    rw [stopped v, hφ, Option.any_some]
    cases φ with
    | gone | crashed => rfl
    | starting | idle | taken | working | finished | reporting | leaving => cases ended

/-- The accounts of a pool whose workers have all ended, and the provider has not crashed. -/
structure Complete (p : Pool) : Prop where
  jobs : ∀ id, p.events.countP (Event.starts id) = p.events.countP (Event.ends id)
  workers : ∀ v < p.workers.length, p.events.count (.workerStarted v) = 1 ∧
    p.events.count (.workerStopped v) = 1

theorem Closed.complete {p : Pool} (h : Closed p) (sound : ∀ φ ∈ p.workers, φ.crashed? = none) :
    Complete p where
  jobs id := by
    have none : p.workers.countP (fun φ => φ.crashed? = some id) = 0 :=
      List.countP_eq_zero.mpr fun φ hφ => by simp [sound φ hφ]
    rw [h.jobs id, none, Nat.add_zero]
  workers v hv := by
    have stopped := h.stopped v _ (List.getElem?_eq_getElem hv)
    rw [if_pos (sound _ (List.getElem_mem hv))] at stopped
    exact ⟨h.started v hv, stopped⟩

/-- The accounts of a pool after some actions. -/
structure Accounts (w : World) (actions : List Action) : Prop where
  accepted : ∀ id, (w.notes (World.offered? .enqueued) actions).count id =
    (w.run actions).pool.buffer.count id + (w.notes World.dequeued? actions).count id
  order : w.notes World.dequeued? actions <+: w.notes (World.offered? .enqueued) actions
  jobs : ∀ id, Balanced id (w.run actions).pool
  dropped : ∀ id, (w.run actions).pool.events.count (.jobDropped id) =
    (w.notes (World.offered? .dropped) actions).count id
  offers : ∀ id, ((w.run actions).pool.enqueue id).2.events = (w.run actions).pool.events ++
    if ((w.run actions).pool.enqueue id).1 = .dropped then [.jobDropped id] else []
  closed : (∀ φ ∈ (w.run actions).pool.workers, φ.isOver = true) → Closed (w.run actions).pool
  complete : (∀ v, .crash v ∉ actions) → (∀ φ ∈ (w.run actions).pool.workers, φ.isOver = true) →
    Complete (w.run actions).pool

private theorem events_enqueue (p : Pool) (id : Uuid) :
    (p.enqueue id).2.events =
      p.events ++ if (p.enqueue id).1 = .dropped then [.jobDropped id] else [] := by
  rcases enqueue_cases p id with ⟨h, hp⟩ | ⟨h, hp⟩ | ⟨_, h, hp⟩ <;> simp [h, hp]

/-- In every run of a pool, whatever its settings and whatever happens in whatever order, the
meetings are dequeued in the order of their acceptance and none is lost, each dropped one is told
once, and each job that has been started has ended or is with one worker. -/
theorem accounts_run (settings : Settings) (b : Backend) (actions : List Action) :
    Accounts (.opened settings b) actions := by
  have queue := World.queue_run (.opened settings b) actions
  rw [show (World.opened settings b).pool.buffer = [] from rfl, List.nil_append] at queue
  have jobs : ∀ id, Balanced id ((World.opened settings b).run actions).pool := fun id =>
    World.run_serves rfl fun _ => Balanced.serves
  have told : ∀ {tell has}, ToldOnce tell has →
      Told tell has ((World.opened settings b).run actions).pool := fun once =>
    World.run_serves (fun _ => rfl) fun _ => Told.serves once
  have closed := fun allOver =>
    closed_of_told allOver jobs (told toldOnce_workerStarted) (told toldOnce_workerStopped)
  constructor
  case accepted =>
    intro id
    rw [queue, List.count_append, Nat.add_comm]
  case order =>
    rw [queue]
    exact List.prefix_append _ _
  case jobs => exact jobs
  case dropped =>
    intro id
    rw [World.drops_run]
    exact Nat.zero_add _
  case offers => exact events_enqueue _
  case closed => exact closed
  case complete =>
    intro peaceful allOver
    exact (closed allOver).complete (crashed?_run peaceful nofun)

/-- One worker takes a meeting as far as the provider, which crashes. -/
def crashedInJob : List Action :=
  [.markStart, .testStart, .spawn, .announce 0, .enqueue ⟨1⟩, .take 0, .startJob 0,
    .work 0 fun _ _ => .ok [], .work 0 fun _ _ => .ok [], .work 0 fun _ _ => .ok [], .crash 0]

/-- A job in which the provider crashes is not told to have ended, nor its worker to have stopped. -/
theorem not_all_started_jobs_end :
    ¬ ∀ (settings : Settings) (b : Backend) (actions : List Action),
      (∀ φ ∈ ((World.opened settings b).run actions).pool.workers, φ.isOver = true) →
        (∀ id, ((World.opened settings b).run actions).pool.events.countP (Event.starts id) =
          ((World.opened settings b).run actions).pool.events.countP (Event.ends id)) ∧
        ∀ v, ((World.opened settings b).run actions).pool.events.count (.workerStarted v) =
          ((World.opened settings b).run actions).pool.events.count (.workerStopped v) := by
  intro h
  have jobs := (h ⟨1, 1, 1⟩ .oneQueued crashedInJob (by decide +kernel)).1 ⟨1⟩
  revert jobs
  decide +kernel

end MeetingInsights.Pool
