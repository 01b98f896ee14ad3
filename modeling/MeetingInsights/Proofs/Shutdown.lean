import Mathlib.Data.List.Basic
import MeetingInsights.Proofs.JobClosings

/-! # Stopping a pool freezes its queue

From the moment a call to stop has signalled the workers, nobody is accepted or dequeued any more,
and the jobs in flight come to their ends.
-/

namespace MeetingInsights.Pool

/-- A worker looks at the signal and at the queue in one step, and the first start of the pool is
kept apart from its being stopped. -/
def World.IsOrderly (w : World) (a : Action) : Prop := a.isPrompt = true ∧ w.KeepsApart a

instance (w : World) (a : Action) : Decidable (w.IsOrderly a) :=
  inferInstanceAs (Decidable (_ ∧ _))

/-- The meeting that a worker has dequeued and whose job it has not told to end. -/
def Phase.meeting? : Phase → Option Uuid
  | .taken id | .working id _ | .finished id _ | .reporting id _ | .crashed id => some id
  | _ => none

/-- The meeting of a job in flight, with what is left to do for it. -/
def Phase.inFlight? : Phase → Option (Uuid × Program Job.Outcome)
  | .taken id => some (id, Job.process id)
  | .working id q => some (id, q)
  | .finished id o | .reporting id o => some (id, .done o)
  | _ => none

variable {w : World} {a : Action} {p : Pool} {v : Nat} {φ : Phase} {id : Uuid}
  {q : Program Job.Outcome}

theorem meeting?_of_inFlight (h : φ.inFlight? = some (id, q)) : φ.meeting? = some id := by
  cases φ with
  | taken | working | finished | reporting =>
    cases h
    rfl
  | starting | idle | leaving | gone | crashed => cases h

theorem events_act (w : World) (a : Action) : w.pool.events <+: (w.act a).pool.events := by
  obtain ⟨_, _, _, serves⟩ := World.serves_some w a
  cases serves with
  | rest _ _ events | accept _ _ events | dequeue _ _ _ events | spawn _ _ events =>
    exact events ▸ List.prefix_rfl
  | drop _ _ events | shift _ _ _ _ events =>
    rw [events]
    exact List.prefix_append _ _

theorem stands_act (stands : w.pool.workers[v]? = some φ) (busy : φ.meeting? = some id)
    (a : Action) :
    (w.act a).pool.workers[v]? = some φ ∨
      ∃ ψ es, Shifts a v φ ψ es ∧ (w.act a).pool.workers[v]? = some ψ ∧
        (w.act a).pool.events = w.pool.events ++ es := by
  obtain ⟨_, _, _, serves⟩ := World.serves_some w a
  obtain ⟨hv, _⟩ := List.getElem?_eq_some_iff.mp stands
  cases serves with
  | rest _ workers | accept _ workers | drop _ workers => exact .inl (by rw [workers, stands])
  | @dequeue _ u _ idle _ workers =>
    have other : u ≠ v := by
      rintro rfl
      obtain rfl := Option.some.inj (stands.symm.trans idle)
      cases busy
    exact .inl (by rw [workers, List.getElem?_set_ne other, stands])
  | spawn _ workers => exact .inl (by rw [workers, List.getElem?_append_left hv, stands])
  | @shift _ u χ ψ es stands' shifts _ workers events =>
    by_cases same : u = v
    · subst same
      obtain rfl := Option.some.inj (stands.symm.trans stands')
      exact .inr ⟨ψ, es, shifts, by rw [workers, List.getElem?_set_self hv], events⟩
    · exact .inl (by rw [workers, List.getElem?_set_ne same, stands])

/-- What has become of a job of which `q` was left when these events had been told. -/
inductive Became (v : Nat) (id : Uuid) (q : Program Job.Outcome) (start : List Event) (p : Pool) :
    Prop where
  | underWay {φ xs r} (stands : p.workers[v]? = some φ) (flight : φ.inFlight? = some (id, r))
      (leaves : q.Leaves xs r)
  | crashed {xs m roster next} (stands : p.workers[v]? = some (.crashed id))
      (leaves : q.Leaves xs (.call (.extract m roster) next))
  | told {xs o since} (takes : q.Takes xs (some o)) (events : p.events = start ++ since)
      (event : .ofOutcome id o ∈ since)

private theorem became_shift {start es : List Event} {xs : List Exchange} {r : Program Job.Outcome}
    {ψ : Phase} {p' : Pool} (leaves : q.Leaves xs r) (flight : φ.inFlight? = some (id, r))
    (began : start <+: p.events) (shifts : Shifts a v φ ψ es)
    (stands : p'.workers[v]? = some ψ) (events : p'.events = p.events ++ es) :
    Became v id q start p' := by
  cases shifts with
  | answer answer turn =>
    cases flight
    exact .underWay stands rfl (leaves.snoc answer)
  | start turn | conclude turn | untrack turn =>
    cases flight
    exact .underWay stands rfl leaves
  | crash turn =>
    cases flight
    exact .crashed stands leaves
  | report turn =>
    cases flight
    obtain ⟨since, hsince⟩ := began
    refine .told ⟨_, leaves, rfl⟩ (events.trans ?_) (List.mem_append_right since (List.mem_singleton_self _))
    rw [← hsince, List.append_assoc]
  | announce | withdraw | leave => cases flight

/-- Every action goes on with what has become of a job. -/
theorem Became.act {start : List Event} (h : Became v id q start w.pool)
    (began : start <+: w.pool.events) (a : Action) : Became v id q start (w.act a).pool := by
  cases h with
  | underWay stands flight leaves =>
    rcases stands_act stands (meeting?_of_inFlight flight) a with
      still | ⟨ψ, es, shifts, stands', events⟩
    · exact .underWay still flight leaves
    · exact became_shift leaves flight began shifts stands' events
  | crashed stands leaves =>
    rcases stands_act stands rfl a with still | ⟨ψ, es, shifts, _⟩
    · exact .crashed still leaves
    · cases shifts
  | told takes events event =>
    obtain ⟨es, hes⟩ := events_act w a
    refine .told takes (hes.symm.trans ?_) (List.mem_append_left es event)
    rw [events, List.append_assoc]

/-- The world after the first actions of a schedule. -/
def World.after (w : World) (schedule : Nat → Action) : Nat → World
  | 0 => w
  | n + 1 => (w.after schedule n).act (schedule n)

/-- A schedule on which a worker gets its turns over and over again, and the provider does not crash
in its job. -/
structure Attends (schedule : Nat → Action) (v : Nat) : Prop where
  starts : ∀ n, ∃ m, n ≤ m ∧ schedule m = .startJob v
  works : ∀ n, ∃ m, n ≤ m ∧ ∃ provider, schedule m = .work v provider
  untracks : ∀ n, ∃ m, n ≤ m ∧ schedule m = .untrack v
  reports : ∀ n, ∃ m, n ≤ m ∧ schedule m = .report v
  sound : ∀ n, schedule n ≠ .crash v

section Schedules

variable {schedule : Nat → Action} {n : Nat}

theorem events_after (w : World) (schedule : Nat → Action) {n m : Nat} (h : n ≤ m) :
    (w.after schedule n).pool.events <+: (w.after schedule m).pool.events := by
  induction h with
  | refl => exact List.prefix_rfl
  | step _ ih => exact ih.trans (events_act _ _)

theorem exists_turn (turn : Action → Prop) (again : ∀ n, ∃ m, n ≤ m ∧ turn (schedule m))
    (busy : φ.meeting? = some id)
    (own : ∀ m ψ es, Shifts (schedule m) v φ ψ es → turn (schedule m))
    (stands : (w.after schedule n).pool.workers[v]? = some φ) :
    ∃ m, n ≤ m ∧ turn (schedule m) ∧ (w.after schedule m).pool.workers[v]? = some φ := by
  obtain ⟨k, hk, hturn⟩ := again n
  obtain ⟨d, rfl⟩ := Nat.exists_eq_add_of_le hk
  induction d generalizing n with
  | zero => exact ⟨n, Nat.le_refl n, hturn, stands⟩
  | succ d ih =>
    rcases stands_act stands busy (schedule n) with still | ⟨ψ, es, shifts, _⟩
    · rw [Nat.add_comm d 1, ← Nat.add_assoc] at hturn
      obtain ⟨m, hm, found⟩ := ih (n := n + 1) still (Nat.le_add_right _ _) hturn
      exact ⟨m, Nat.le_of_succ_le hm, found⟩
    · exact ⟨n, Nat.le_refl n, own n ψ es shifts, stands⟩

/-- A worker that gets its turns comes to the end of its job. -/
theorem exists_finished (attends : Attends schedule v)
    (stands : (w.after schedule n).pool.workers[v]? = some (.working id q)) :
    ∃ m xs o, n ≤ m ∧ q.Takes xs (some o) ∧
      (w.after schedule m).pool.workers[v]? = some (.finished id o) := by
  have own : ∀ {q} m ψ es, Shifts (schedule m) v (.working id q) ψ es →
      ∃ provider, schedule m = .work v provider := by
    intro q m ψ es shifts
    cases shifts with
    | answer r turn | conclude turn => exact ⟨_, turn⟩
    | crash turn => exact (attends.sound m turn).elim
  induction q generalizing n with
  | done o =>
    obtain ⟨m, hm, ⟨provider, turn⟩, found⟩ :=
      exists_turn (fun a => ∃ provider, a = .work v provider) attends.works rfl own stands
    refine ⟨m + 1, [], o, Nat.le_succ_of_le hm, Program.takes_done_iff.mpr ⟨rfl, rfl⟩, ?_⟩
    obtain ⟨hv, _⟩ := List.getElem?_eq_some_iff.mp found
    rw [World.after, turn]
    simp only [World.act, work?, found]
    exact List.getElem?_set_self hv
  | call c next ih =>
    obtain ⟨m, hm, ⟨provider, turn⟩, found⟩ :=
      exists_turn (fun a => ∃ provider, a = .work v provider) attends.works rfl own stands
    have answered : (w.after schedule (m + 1)).pool.workers[v]? =
        some (.working id (next ((w.after schedule m).backend.answer provider c).1)) := by
      obtain ⟨hv, _⟩ := List.getElem?_eq_some_iff.mp found
      rw [World.after, turn]
      simp only [World.act, work?, found]
      exact List.getElem?_set_self hv
    obtain ⟨k, xs, o, hk, takes, finished⟩ := ih _ answered
    exact ⟨k, _, o, Nat.le_trans (Nat.le_succ_of_le hm) hk,
      Program.takes_call_iff.mpr (.inr ⟨_, xs, rfl, takes⟩), finished⟩

theorem exists_told_of_reporting {o : Job.Outcome} (attends : Attends schedule v)
    (stands : (w.after schedule n).pool.workers[v]? = some (.reporting id o)) :
    ∃ m since, (w.after schedule m).pool.events = (w.after schedule n).pool.events ++ since ∧
      .ofOutcome id o ∈ since := by
  obtain ⟨m, hm, turn, found⟩ := exists_turn (· = .report v) attends.reports rfl
    (fun m ψ es shifts => by cases shifts; assumption) stands
  obtain ⟨es, hes⟩ := events_after w schedule hm
  refine ⟨m + 1, es ++ [.ofOutcome id o], ?_, List.mem_append_right es (List.mem_singleton_self _)⟩
  rw [World.after, turn]
  simp only [World.act, report?, found, World.onPool, Option.getD_some, events_emit]
  rw [← List.append_assoc, hes]
  rfl

theorem exists_told_of_finished {o : Job.Outcome} (attends : Attends schedule v)
    (stands : (w.after schedule n).pool.workers[v]? = some (.finished id o)) :
    ∃ m since, (w.after schedule m).pool.events = (w.after schedule n).pool.events ++ since ∧
      .ofOutcome id o ∈ since := by
  obtain ⟨m, hm, turn, found⟩ := exists_turn (· = .untrack v) attends.untracks rfl
    (fun m ψ es shifts => by cases shifts; assumption) stands
  have reporting : (w.after schedule (m + 1)).pool.workers[v]? = some (.reporting id o) := by
    obtain ⟨hv, _⟩ := List.getElem?_eq_some_iff.mp found
    rw [World.after, turn]
    simp only [World.act, untrack?, found, World.onPool, Option.getD_some]
    exact List.getElem?_set_self hv
  obtain ⟨k, since, events, event⟩ := exists_told_of_reporting attends reporting
  obtain ⟨es, hes⟩ := events_after w schedule (Nat.le_succ_of_le hm)
  refine ⟨k, es ++ since, ?_, List.mem_append_right es event⟩
  rw [events, ← hes, List.append_assoc]

theorem exists_told_of_working (attends : Attends schedule v)
    (stands : (w.after schedule n).pool.workers[v]? = some (.working id q)) :
    ∃ m xs o since, q.Takes xs (some o) ∧
      (w.after schedule m).pool.events = (w.after schedule n).pool.events ++ since ∧
      .ofOutcome id o ∈ since := by
  obtain ⟨k, xs, o, hk, takes, finished⟩ := exists_finished attends stands
  obtain ⟨m, since, events, event⟩ := exists_told_of_finished attends finished
  obtain ⟨es, hes⟩ := events_after w schedule hk
  refine ⟨m, xs, o, es ++ since, takes, ?_, List.mem_append_right es event⟩
  rw [events, ← hes, List.append_assoc]

private theorem exists_told_of_taken (attends : Attends schedule v)
    (stands : (w.after schedule n).pool.workers[v]? = some (.taken id)) :
    ∃ m xs o since, (Job.process id).Takes xs (some o) ∧
      (w.after schedule m).pool.events = (w.after schedule n).pool.events ++ since ∧
      .ofOutcome id o ∈ since := by
  obtain ⟨m, hm, turn, found⟩ := exists_turn (· = .startJob v) attends.starts rfl
    (fun m ψ es shifts => by cases shifts; assumption) stands
  have working : (w.after schedule (m + 1)).pool.workers[v]? =
      some (.working id (Job.process id)) := by
    obtain ⟨hv, _⟩ := List.getElem?_eq_some_iff.mp found
    rw [World.after, turn]
    simp only [World.act, startJob?, found, World.onPool, Option.getD_some]
    exact List.getElem?_set_self hv
  obtain ⟨k, xs, o, since, takes, events, event⟩ := exists_told_of_working attends working
  obtain ⟨es, hes⟩ := events_after w schedule (Nat.le_succ_of_le hm)
  refine ⟨k, xs, o, es ++ since, takes, ?_, List.mem_append_right es event⟩
  rw [events, ← hes, List.append_assoc]

private theorem exists_told (attends : Attends schedule v) (stands : w.pool.workers[v]? = some φ)
    (flight : φ.inFlight? = some (id, q)) :
    ∃ m xs o since, q.Takes xs (some o) ∧
      (w.after schedule m).pool.events = w.pool.events ++ since ∧ .ofOutcome id o ∈ since := by
  have now : (w.after schedule 0).pool.workers[v]? = some φ := stands
  have ended : ∀ o : Job.Outcome, (Program.done o).Takes [] (some o) := fun o =>
    Program.takes_done_iff.mpr ⟨rfl, rfl⟩
  cases φ with
  | taken i =>
    cases flight
    exact exists_told_of_taken attends now
  | working i q =>
    cases flight
    exact exists_told_of_working attends now
  | finished i o =>
    cases flight
    obtain ⟨m, since, told⟩ := exists_told_of_finished attends now
    exact ⟨m, [], o, since, ended o, told⟩
  | reporting i o =>
    cases flight
    obtain ⟨m, since, told⟩ := exists_told_of_reporting attends now
    exact ⟨m, [], o, since, ended o, told⟩
  | starting | idle | leaving | gone | crashed => cases flight

end Schedules

/-- What stays as it was when a pool had been stopped, and what becomes of its jobs. -/
structure Still (w w' : World) : Prop where
  gated : Gated w'.control
  shut : Shut w'.control
  buffer : w'.pool.buffer = w.pool.buffer
  crew : w'.pool.workers.length = w.pool.workers.length
  courses : Courses w'.pool
  events : w.pool.events <+: w'.pool.events
  jobs : ∀ v φ id q, w.pool.workers[v]? = some φ → φ.inFlight? = some (id, q) →
    Became v id q w.pool.events w'.pool

theorem still_self (gated : Gated w.control) (shut : Shut w.control) (courses : Courses w.pool) :
    Still w w where
  gated := gated
  shut := shut
  buffer := rfl
  crew := rfl
  courses := courses
  events := List.prefix_rfl
  jobs _ _ _ _ stands flight := .underWay stands flight (.all _)

theorem Still.act {w' : World} (h : Still w w') (orderly : w'.IsOrderly a) : Still w (w'.act a) := by
  obtain ⟨shut, size⟩ := shut_act h.gated h.shut a
  obtain ⟨_, _, _, serves⟩ := World.serves_some w' a
  exact ⟨gated_act h.gated orderly.2, shut, (buffer_act h.shut orderly.1).trans h.buffer,
    size.trans h.crew, h.courses.serves serves, h.events.trans (events_act w' a),
    fun v φ id q stands flight => (h.jobs v φ id q stands flight).act h.events a⟩

theorem notes_dequeued?_of_shut {actions : List Action} (gated : Gated w.control)
    (shut : Shut w.control) (orderly : w.Along World.IsOrderly actions) :
    w.notes World.dequeued? actions = [] := by
  induction actions generalizing w with
  | nil => rfl
  | cons a actions ih =>
    obtain ⟨now, later⟩ := orderly
    rw [World.notes, dequeued?_of_shut shut now.1]
    exact ih (gated_act gated now.2) (shut_act gated shut a).1 later

/-- The record of a meeting that waits is spared by others. -/
def World.Spares (waiting : List Uuid) (w : World) (a : Action) : Prop :=
  ∀ b, a = .elsewhere b → ∀ id ∈ waiting,
    b.store.meetings.find? id = w.backend.store.meetings.find? id

theorem tracking_act (h : Tracking w.pool) (a : Action) : Tracking (w.act a).pool := by
  have change : Change (fun _ _ => True) w (w.act a) (w.exchange? a) :=
    World.change_act a fun _ _ => trivial
  exact tracking_change h change

private theorem records_act {w' : World} (h : Still w w') (tracking : Tracking w'.pool)
    (spares : w'.Spares w.pool.buffer a) {id : Uuid} (waits : id ∈ w.pool.buffer) :
    (w'.act a).backend.store.meetings.find? id = w'.backend.store.meetings.find? id := by
  refine find?_act h.courses (fun holds => ?_) fun b hb => spares b hb id waits
  rw [← h.buffer] at waits
  exact (List.nodup_append.mp tracking.distinct).2.2 id waits id holds rfl

/-- The worker with a job in flight is still at it, or the meeting is terminal. -/
def Closes (w w' : World) : Prop :=
  ∀ (v : Nat) φ id q, w.pool.workers[v]? = some φ → φ.inFlight? = some (id, q) →
    (∃ ψ, w'.pool.workers[v]? = some ψ ∧ ψ.meeting? = some id) ∨ IsClosed w'.backend id

theorem Closes.act {w' : World} (h : Closes w w') (settling : Settling w')
    (undisturbed : w'.Undisturbed a) : Closes w (w'.act a) := by
  intro v φ id q stands flight
  rcases h v φ id q stands flight with ⟨ψ, hψ, busy⟩ | closed
  · rcases stands_act hψ busy a with still | ⟨χ, es, shifts, hχ, _⟩
    · exact .inl ⟨ψ, still, busy⟩
    · cases shifts with
      | report turn =>
        cases busy
        have closed : IsClosed w'.backend id := settling.jobs _ (List.mem_of_getElem? hψ)
        exact .inr ((keeps_change settling undisturbed.change).closed id closed)
      | start | answer | conclude | crash | untrack => exact .inl ⟨_, hχ, busy⟩
      | announce | withdraw | leave => cases busy
  · exact .inr ((keeps_change settling undisturbed.change).closed id closed)

/-- What is known of a pool after some actions, given the world in which it was stopped. -/
structure Frozen (w : World) (actions : List Action) : Prop where
  offers : ∀ id, (w.run actions).pool.enqueue id = (.closed, (w.run actions).pool)
  buffer : (w.run actions).pool.buffer = w.pool.buffer
  dequeued : w.notes World.dequeued? actions = []
  crew : (w.run actions).pool.workers.length = w.pool.workers.length
  starts : (w.run actions).pool.isStarted = true ∨ .returned ∈ (w.run actions).pool.stops →
    (w.run actions).pool.start = { (w.run actions).pool with isStarted := true }
  records : w.Along (World.Spares w.pool.buffer) actions → ∀ id ∈ w.pool.buffer,
    (w.run actions).backend.store.meetings.find? id = w.backend.store.meetings.find? id
  jobs : ∀ v φ id q, w.pool.workers[v]? = some φ → φ.inFlight? = some (id, q) →
    Became v id q w.pool.events (w.run actions).pool
  /-- Only a job whose meeting had been dequeued is told to start, and each job is told to end once. -/
  since : ∃ since, (w.run actions).pool.events = w.pool.events ++ since ∧
    ∀ id, since.countP (Event.starts id) +
          (w.run actions).pool.workers.countP (fun φ => φ.taken? = some id) =
        w.pool.workers.countP (fun φ => φ.taken? = some id) ∧
      since.countP (Event.ends id) +
          (w.run actions).pool.workers.countP (fun φ => φ.meeting? = some id) =
        w.pool.workers.countP fun φ => φ.meeting? = some id
  tracked : (∀ φ ∈ (w.run actions).pool.workers, φ.isOver = true ∧ φ.crashed? = none) →
    (w.run actions).pool.tracked.Perm w.pool.buffer

private theorem start_of_stopped {p : Pool} (h : p.isStarted = true ∨ p.isStopped = true) :
    p.start = { p with isStarted := true } := by
  unfold start markStarted maySpawn
  rcases h with started | stopped
  · simp [started]
  · simp [stopped]

private theorem held?_of_isOver (h : φ.isOver = true) (whole : φ.crashed? = none) :
    φ.held? = none := by
  cases φ with
  | gone => rfl
  | crashed => cases whole
  | starting | idle | taken | working | finished | reporting | leaving => cases h

theorem countP_meeting? (workers : List Phase) (id : Uuid) :
    workers.countP (fun φ => φ.meeting? = some id) =
      workers.countP (fun φ => φ.taken? = some id) +
        workers.countP fun φ => φ.unended? = some id := by
  induction workers with
  | nil => rfl
  | cons φ workers ih =>
    simp only [List.countP_cons, ih]
    cases φ <;> simp [Phase.meeting?, Phase.taken?, Phase.unended?] <;> omega

/-- What is known of a pool with its whole history. -/
structure Known (w : World) : Prop where
  tracking : Tracking w.pool
  courses : Courses w.pool
  balanced : ∀ id, Balanced id w.pool

theorem Known.act (h : Known w) (a : Action) : Known (w.act a) := by
  obtain ⟨_, _, _, serves⟩ := World.serves_some w a
  exact ⟨tracking_act h.tracking a, h.courses.serves serves, fun id => (h.balanced id).serves serves⟩

theorem known_run (h : Known w) (actions : List Action) : Known (w.run actions) := by
  induction actions generalizing w with
  | nil => exact h
  | cons a actions ih => exact ih (h.act a)

theorem known_opened (settings : Settings) (b : Backend) : Known (.opened settings b) :=
  ⟨tracking_new settings, nofun, fun _ => rfl⟩

theorem Known.frozen (known : Known w) (gated : Gated w.control) (shut : Shut w.control)
    {actions : List Action} (orderly : w.Along World.IsOrderly actions) : Frozen w actions := by
  have still : Still w (w.run actions) :=
    World.run_along (still_self gated shut known.courses) Still.act orderly
  have later := known_run known actions
  constructor
  case offers => exact fun id => enqueue_of_closed still.shut.closed
  case buffer => exact still.buffer
  case dequeued => exact notes_dequeued?_of_shut gated shut orderly
  case crew => exact still.crew
  case starts => exact fun h => start_of_stopped (h.imp_right still.gated.returned)
  case records =>
    intro spares id waits
    have kept := World.run_along (J := fun w' => (Still w w' ∧ Tracking w'.pool) ∧
        w'.backend.store.meetings.find? id = w.backend.store.meetings.find? id)
      ⟨⟨still_self gated shut known.courses, known.tracking⟩, rfl⟩
      (fun ⟨⟨still, tracking⟩, same⟩ ⟨orderly, spares⟩ =>
        ⟨⟨still.act orderly, tracking_act tracking _⟩,
          (records_act still tracking spares waits).trans same⟩)
      (orderly.and spares)
    exact kept.2
  case jobs => exact still.jobs
  case since =>
    obtain ⟨since, events⟩ := still.events
    refine ⟨since, events.symm, fun id => ?_⟩
    have starts := w.starts_run actions id
    have before := known.balanced id
    have after := later.balanced id
    unfold Balanced at before after
    rw [← events, List.countP_append, notes_dequeued?_of_shut gated shut orderly] at starts
    rw [← events, List.countP_append, List.countP_append] at after
    rw [countP_meeting?, countP_meeting?]
    simp only [List.count_nil] at starts
    omega
  case tracked =>
    intro allOver
    have none : (w.run actions).pool.held = [] :=
      List.filterMap_eq_nil_iff.mpr fun φ hφ => held?_of_isOver (allOver φ hφ).1 (allOver φ hφ).2
    have tracked := later.tracking.tracked
    rwa [none, List.append_nil, still.buffer] at tracked

/-- One worker is at its provider with a meeting, and another meeting waits, when the pool is stopped. -/
def stoppedInJob : List Action :=
  [.markStart, .testStart, .spawn, .announce 0, .enqueue ⟨1⟩, .take 0, .startJob 0,
    .work 0 fun _ _ => .ok [], .work 0 fun _ _ => .ok [], .work 0 fun _ _ => .ok [], .enqueue ⟨2⟩,
    .callStop, .stopStep 0, .stopStep 0]

/-- One worker has taken a meeting and not told the start of its job when the pool is stopped. -/
def stoppedInTurn : List Action :=
  [.markStart, .testStart, .spawn, .announce 0, .enqueue ⟨1⟩, .take 0, .callStop, .stopStep 0,
    .stopStep 0]

end MeetingInsights.Pool
