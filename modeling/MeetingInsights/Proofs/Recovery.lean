import MeetingInsights.Proofs.FinalRecords
import MeetingInsights.Proofs.JobRuns
import MeetingInsights.Proofs.Quiescence
import MeetingInsights.Proofs.Requeueing

/-! # No meeting is lost when a pool is stopped

Over a backend that disturbs nothing, each meeting that a pool has not come to stays as it was, and
each that it has come to is terminal in the end, or the provider has crashed in its job. So the next
pool finds what is left to do among the queued meetings.
-/

namespace MeetingInsights

private theorem Backend.ne_queued_of_begun {b : Backend} {provider : Provider} {id : Uuid}
    {s : Status} (hb : b.faults = [])
    (after : (b.answer provider (Job.beginCall id)).2.store.statusOf? id = some s) :
    s ≠ .queued := by
  rintro rfl
  rcases b.answer_updateStatus provider id .processing none with ⟨⟨e, he⟩, same⟩ | ⟨_, _, new⟩
  · have before : b.store.statusOf? id = some .queued := same ▸ after
    obtain ⟨m, found, queued⟩ := Store.statusOf?_eq_some.mp before
    obtain rfl := MeetingTable.find?_eq_some found
    have isOpen : m.status.isTerminal = false := by rw [queued]; rfl
    rw [answer_updateStatus_of_open hb found isOpen] at he
    cases he
  · have moved := (new id).symm.trans after
    rw [if_pos rfl] at moved
    cases moved

namespace Pool

/-- A job of the meeting has been started. -/
def IsStarted (id : Uuid) (p : Pool) : Prop := ∃ e ∈ p.events, e.starts id = true

variable {w w' : World} {a : Action} {p q : Pool} {v : Nat} {φ ψ : Phase} {id j : Uuid}
  {b b' b₀ : Backend}

theorem isStarted_of_events {es : List Event} (events : q.events = p.events ++ es) :
    IsStarted j q ↔ IsStarted j p ∨ ∃ e ∈ es, e.starts j = true := by
  simp only [IsStarted, events, List.mem_append, or_and_right, exists_or]

theorem isStarted_of_silent {es : List Event} (events : q.events = p.events ++ es)
    (silent : ∀ e ∈ es, ∀ id, e.starts id = false) : IsStarted j q ↔ IsStarted j p := by
  rw [isStarted_of_events events]
  refine or_iff_left ?_
  rintro ⟨e, he, starts⟩
  rw [silent e he j] at starts
  cases starts

private theorem Moves.unstarting {es : List Event} (h : Moves v φ ψ es)
    (untaken : φ.taken? = none) : ∀ e ∈ es, ∀ id, e.starts id = false := by
  cases h with
  | start => cases untaken
  | announce | leave => simp [Event.starts]
  | report => simp [Event.starts_ofOutcome]
  | withdraw | conclude => simp

/-- Once no worker has still to tell of a job, those started are of the meetings dequeued. -/
theorem isStarted_run (settings : Settings) (b : Backend) (actions : List Action)
    (told : ∀ φ ∈ ((World.opened settings b).run actions).pool.workers, φ.taken? = none)
    (id : Uuid) :
    IsStarted id ((World.opened settings b).run actions).pool ↔
      id ∈ (World.opened settings b).notes World.dequeued? actions := by
  have count := (World.opened settings b).starts_run actions id
  have none : ((World.opened settings b).run actions).pool.workers.countP
      (fun φ => φ.taken? = some id) = 0 :=
    List.countP_eq_zero.mpr fun φ hφ => by simp [told φ hφ]
  rw [none, show (World.opened settings b).pool.events = [] from rfl,
    show (World.opened settings b).pool.workers = [] from rfl, List.countP_nil, List.countP_nil,
    Nat.zero_add, Nat.add_zero] at count
  unfold IsStarted
  rw [← List.countP_pos_iff, count, List.count_pos_iff]

/-- A meeting has not been added, has not become queued again and has not left a terminal status. -/
def Advances (b b' : Backend) (id : Uuid) : Prop :=
  ∀ t, b'.store.statusOf? id = some t → ∃ s, b.store.statusOf? id = some s ∧
    (s ≠ .queued → t ≠ .queued) ∧ (s.isTerminal = true → t.isTerminal = true)

theorem Advances.of_eq (same : b'.store.statusOf? id = b.store.statusOf? id) : Advances b b' id :=
  fun t ht => ⟨t, same.symm.trans ht, fun h => h, fun h => h⟩

/-- The answer to a job leaves the statuses of other meetings alone and moves its own on. -/
theorem statuses_answer {xs : List Exchange} {c : Call} {next : c.Answer → Program Job.Outcome}
    (h : (Job.process id).Leaves xs (.call c next)) (provider : Provider) (b : Backend) :
    (∀ j, j ≠ id → (b.answer provider c).2.store.statusOf? j = b.store.statusOf? j) ∧
      Advances b (b.answer provider c).2 id := by
  have isTrue : (⟨id, xs, .call c next⟩ : Job.Ongoing).IsTrue := h
  rcases isTrue.moves provider b with ⟨status, moves⟩ | ⟨same, _⟩
  · refine ⟨fun j hj => (moves.new j).trans (if_neg hj), fun t ht => ?_⟩
    obtain ⟨old, hold, isOpen⟩ := moves.old
    obtain rfl := Option.some.inj (((moves.new id).trans (if_pos rfl)).symm.trans ht)
    refine ⟨old, hold, fun _ => moves.due.ne_queued, fun terminal => ?_⟩
    rw [isOpen] at terminal
    cases terminal
  · exact ⟨fun j _ => same j, .of_eq (same id)⟩

/-- What is known of a worker's job over a backend, whether its meeting is stored or not: once the
job has been begun the meeting is not queued, and once it is over the meeting is terminal. -/
def Phase.IsTrueTo (b : Backend) : Phase → Prop
  | .working id q => ∃ xs, (Job.process id).Leaves xs q ∧
      (∀ s, b.store.statusOf? id = some s → xs = [] ∨ s ≠ .queued) ∧
      ∀ s o, b.store.statusOf? id = some s → q = .done o → s.isTerminal = true
  | .crashed id => ∀ s, b.store.statusOf? id = some s → s ≠ .queued
  | _ => True

private theorem Phase.IsTrueTo.of_unconcerned (free : ∀ id, ¬ φ.Concerns id) : φ.IsTrueTo b := by
  cases φ with
  | working id | crashed id => exact (free id rfl).elim
  | starting | idle | taken | finished | reporting | leaving | gone => trivial

/-- At first the meeting may be in any status, as nothing has been asked of the backend yet. -/
theorem Phase.IsTrueTo.of_started : (Phase.working id (Job.process id)).IsTrueTo b := by
  refine ⟨[], .all _, fun _ _ => .inl rfl, fun s o _ ended => ?_⟩
  cases ended

theorem Phase.IsTrueTo.advance (h : φ.IsTrueTo b)
    (advances : ∀ id, φ.Concerns id → Advances b b' id) : φ.IsTrueTo b' := by
  cases φ with
  | working id q =>
    obtain ⟨xs, leaves, begun, closed⟩ := h
    refine ⟨xs, leaves, fun t ht => ?_, fun t o ht ended => ?_⟩
    · obtain ⟨s, hs, moved, _⟩ := advances id rfl t ht
      exact (begun s hs).imp_right moved
    · obtain ⟨s, hs, _, stays⟩ := advances id rfl t ht
      exact stays (closed s o hs ended)
  | crashed id =>
    intro t ht
    obtain ⟨s, hs, moved, _⟩ := advances id rfl t ht
    exact moved (h s hs)
  | starting | idle | taken | finished | reporting | leaving | gone => trivial

theorem Phase.Concerns.eq (h : φ.Concerns id) (h' : φ.Concerns j) : j = id := by
  cases φ with
  | working | crashed => exact h'.symm.trans h
  | starting | idle | taken | finished | reporting | leaving | gone => cases h

private theorem isTrueTo_answer {xs : List Exchange} {c : Call}
    {next : c.Answer → Program Job.Outcome} {provider : Provider} (hb : b.faults = [])
    (h : (Job.process id).Leaves xs (.call c next))
    (begun : ∀ s, b.store.statusOf? id = some s → xs = [] ∨ s ≠ .queued) :
    (Phase.working id (next (b.answer provider c).1)).IsTrueTo (b.answer provider c).2 := by
  obtain ⟨_, advances⟩ := statuses_answer h provider b
  refine ⟨_, h.snoc _, fun t ht => .inr ?_, fun t o ht ended => ?_⟩
  · obtain ⟨s, hs, moved, _⟩ := advances t ht
    rcases Job.next_of_leaves h with ⟨_, rfl⟩ | ⟨_, _, rfl, _⟩
    · exact Backend.ne_queued_of_begun hb ht
    · exact moved ((begun s hs).resolve_left (List.cons_ne_nil _ _))
  · obtain ⟨s, hs, _⟩ := advances t ht
    obtain ⟨t', ht', terminal⟩ := isClosed_of_ended hb (by rw [hs]; rfl) h ended
    obtain rfl := Option.some.inj (ht'.symm.trans ht)
    exact terminal

/-- What others may do to the backend beside a pool: they disturb nothing and leave the statuses of
stored meetings alone. The meetings that they add are queued and new to the pool. -/
structure Tends (p : Pool) (b b' : Backend) : Prop where
  faultless : b'.faults = []
  statuses : ∀ id s, b.store.statusOf? id = some s → b'.store.statusOf? id = some s
  added : ∀ id s, b.store.statusOf? id = none → b'.store.statusOf? id = some s →
    s = .queued ∧ ¬ p.IsStarted id

/-- Others do nothing more than they may. -/
def World.Tended (w : World) (a : Action) : Prop :=
  ∀ b, a = .elsewhere b → Tends w.pool w.backend b

theorem World.tended_of_forall_ne {actions : List Action}
    (h : ∀ a ∈ actions, ∀ b, a ≠ .elsewhere b) (w : World) : w.Along World.Tended actions := by
  induction actions generalizing w with
  | nil => trivial
  | cons a actions ih =>
    obtain ⟨ha, hactions⟩ := List.forall_mem_cons.mp h
    exact ⟨fun b he => (ha b he).elim, ih hactions _⟩

/-- The meetings of a pool over a backend that was another at first: those that no job has been
started of are as they were, and the others are with a worker or terminal. -/
structure Recovering (b₀ : Backend) (w : World) : Prop where
  faultless : w.backend.faults = []
  kept : ∀ id, (b₀.store.statusOf? id).isSome → (w.backend.store.statusOf? id).isSome
  jobs : ∀ φ ∈ w.pool.workers, φ.IsTrueTo w.backend
  begun : ∀ φ ∈ w.pool.workers, ∀ id, φ.Concerns id → w.pool.IsStarted id
  started : ∀ id s, w.pool.IsStarted id → w.backend.store.statusOf? id = some s →
    s.isTerminal = true ∨ ∃ φ ∈ w.pool.workers, φ.Concerns id
  unstarted : ∀ id s, ¬ w.pool.IsStarted id → w.backend.store.statusOf? id = some s →
    s = (b₀.store.statusOf? id).getD .queued

private theorem recovering_opened (settings : Settings) (hb : b.faults = []) :
    Recovering b (.opened settings b) where
  faultless := hb
  kept _ h := h
  jobs := nofun
  begun := nofun
  started _ _ h := by
    obtain ⟨_, he, _⟩ := h
    cases he
  unstarted id s _ hs := by
    rw [show b.store.statusOf? id = some s from hs]
    rfl

theorem Recovering.frame (h : Recovering b₀ w) (faults : w'.backend.faults = w.backend.faults)
    (store : w'.backend.store = w.backend.store)
    (come : ∀ φ ∈ w'.pool.workers, φ ∈ w.pool.workers ∨ ∀ id, ¬ φ.Concerns id)
    (stay : ∀ φ ∈ w.pool.workers, ∀ id, φ.Concerns id → φ ∈ w'.pool.workers)
    (same : ∀ id, w'.pool.IsStarted id ↔ w.pool.IsStarted id) : Recovering b₀ w' where
  faultless := faults.trans h.faultless
  kept id stored := by
    rw [store]
    exact h.kept id stored
  jobs φ hφ := by
    rcases come φ hφ with old | free
    · exact (h.jobs φ old).advance fun id _ => .of_eq (by rw [store])
    · exact .of_unconcerned free
  begun φ hφ id concerns := by
    rcases come φ hφ with old | free
    · exact (same id).mpr (h.begun φ old id concerns)
    · exact (free id concerns).elim
  started id s started hs := by
    rw [store] at hs
    refine (h.started id s ((same id).mp started) hs).imp_right fun ⟨φ, hφ, concerns⟩ => ?_
    exact ⟨φ, stay φ hφ id concerns, concerns⟩
  unstarted id s unstarted hs := by
    rw [store] at hs
    exact h.unstarted id s (fun started => unstarted ((same id).mpr started)) hs

theorem Recovering.move (h : Recovering b₀ w) (stands : w.pool.workers[v]? = some φ)
    (free : ∀ id, ¬ φ.Concerns id) (free' : ∀ id, ¬ ψ.Concerns id)
    (backend : w'.backend = w.backend) (workers : w'.pool.workers = w.pool.workers.set v ψ)
    (same : ∀ id, w'.pool.IsStarted id ↔ w.pool.IsStarted id) : Recovering b₀ w' := by
  refine h.frame (by rw [backend]) (by rw [backend]) (fun χ hχ => ?_) (fun χ hχ id concerns => ?_) same
  · rw [workers] at hχ
    rcases List.mem_or_eq_of_mem_set hχ with old | rfl
    · exact .inl old
    · exact .inr free'
  · rw [workers]
    refine mem_set_of_ne stands hχ ?_
    rintro rfl
    exact free id concerns

theorem Recovering.start (h : Recovering b₀ w) (stands : w.pool.workers[v]? = some (.taken id)) :
    Recovering b₀
      { w with pool := w.pool.moved v (.working id (Job.process id)) [.jobStarted id v] } := by
  obtain ⟨hv, _⟩ := List.getElem?_eq_some_iff.mp stands
  have begun : ∀ j, IsStarted j (w.pool.moved v (.working id (Job.process id)) [.jobStarted id v]) ↔
      w.pool.IsStarted j ∨ id = j := by
    intro j
    rw [isStarted_of_events (p := w.pool) rfl]
    simp [Event.starts]
  constructor
  case faultless => exact h.faultless
  case kept => exact h.kept
  case jobs =>
    intro φ hφ
    rcases List.mem_or_eq_of_mem_set hφ with old | rfl
    · exact h.jobs φ old
    · exact .of_started
  case begun =>
    intro φ hφ j concerns
    rw [begun]
    rcases List.mem_or_eq_of_mem_set hφ with old | rfl
    · exact .inl (h.begun φ old j concerns)
    · exact .inr concerns
  case started =>
    intro j s started hs
    rcases (begun j).mp started with before | rfl
    · rcases h.started j s before hs with terminal | ⟨φ, hφ, concerns⟩
      · exact .inl terminal
      · refine .inr ⟨φ, mem_set_of_ne stands hφ ?_, concerns⟩
        rintro rfl
        exact concerns
    · exact .inr ⟨_, List.mem_set hv _, rfl⟩
  case unstarted =>
    intro j s unstarted hs
    exact h.unstarted j s (fun before => unstarted ((begun j).mpr (.inl before))) hs

theorem Recovering.work (h : Recovering b₀ w) (stands : w.pool.workers[v]? = some φ)
    (owner : φ.Concerns id) (faults : b'.faults = [])
    (stored : ∀ j, (w.backend.store.statusOf? j).isSome → (b'.store.statusOf? j).isSome)
    (others : ∀ j, j ≠ id → b'.store.statusOf? j = w.backend.store.statusOf? j)
    (advances : Advances w.backend b' id) (goes : ψ.IsTrueTo b')
    (only : ∀ j, ψ.Concerns j → j = id)
    (closes : ψ.Concerns id ∨ ∀ s, b'.store.statusOf? id = some s → s.isTerminal = true) :
    Recovering b₀ { w with pool := w.pool.moved v ψ [], backend := b' } := by
  obtain ⟨hv, _⟩ := List.getElem?_eq_some_iff.mp stands
  have startedId : w.pool.IsStarted id := h.begun φ (List.mem_of_getElem? stands) id owner
  have same : ∀ j, IsStarted j (w.pool.moved v ψ []) ↔ w.pool.IsStarted j := fun j =>
    isStarted_of_silent rfl nofun
  constructor
  case faultless => exact faults
  case kept => exact fun j hj => stored j (h.kept j hj)
  case jobs =>
    intro χ hχ
    rcases List.mem_or_eq_of_mem_set hχ with old | rfl
    · refine (h.jobs χ old).advance fun j _ => ?_
      by_cases hj : j = id
      · exact hj ▸ advances
      · exact .of_eq (others j hj)
    · exact goes
  case begun =>
    intro χ hχ j concerns
    rw [same]
    rcases List.mem_or_eq_of_mem_set hχ with old | rfl
    · exact h.begun χ old j concerns
    · exact only j concerns ▸ startedId
  case started =>
    intro j s started hs
    by_cases hj : j = id
    · subst hj
      rcases closes with concerns | terminal
      · exact .inr ⟨ψ, List.mem_set hv _, concerns⟩
      · exact .inl (terminal s hs)
    · have before : w.backend.store.statusOf? j = some s := (others j hj).symm.trans hs
      refine (h.started j s ((same j).mp started) before).imp_right fun ⟨χ, hχ, concerns⟩ => ?_
      refine ⟨χ, mem_set_of_ne stands hχ ?_, concerns⟩
      rintro rfl
      exact hj (owner.eq concerns)
  case unstarted =>
    intro j s unstarted hs
    rw [same] at unstarted
    have hj : j ≠ id := by
      rintro rfl
      exact unstarted startedId
    exact h.unstarted j s unstarted ((others j hj).symm.trans hs)

theorem Recovering.elsewhere (h : Recovering b₀ w) (tends : Tends w.pool w.backend b) :
    Recovering b₀ { w with backend := b } := by
  -- The status of a meeting was the same, or the meeting is new to the pool.
  have before : ∀ {j s}, b.store.statusOf? j = some s → w.backend.store.statusOf? j = some s ∨
      w.backend.store.statusOf? j = none ∧ s = .queued ∧ ¬ w.pool.IsStarted j := by
    intro j s hs
    cases hold : w.backend.store.statusOf? j with
    | none => exact .inr ⟨rfl, tends.added j s hold hs⟩
    | some t =>
      obtain rfl := Option.some.inj ((tends.statuses j t hold).symm.trans hs)
      exact .inl rfl
  constructor
  case faultless => exact tends.faultless
  case kept =>
    intro j hj
    obtain ⟨s, hs⟩ := Option.isSome_iff_exists.mp (h.kept j hj)
    rw [show b.store.statusOf? j = some s from tends.statuses j s hs]
    rfl
  case jobs =>
    intro φ hφ
    refine (h.jobs φ hφ).advance fun j concerns t ht => ?_
    rcases before ht with hs | ⟨_, _, new⟩
    · exact ⟨t, hs, fun h => h, fun h => h⟩
    · exact (new (h.begun φ hφ j concerns)).elim
  case begun => exact h.begun
  case started =>
    intro j s started hs
    rcases before hs with hold | ⟨_, _, new⟩
    · exact h.started j s started hold
    · exact (new started).elim
  case unstarted =>
    intro j s unstarted hs
    rcases before hs with hold | ⟨missing, queued, _⟩
    · exact h.unstarted j s unstarted hold
    · have absent : b₀.store.statusOf? j = none := by
        cases hb₀ : b₀.store.statusOf? j with
        | none => rfl
        | some t =>
          have stored := h.kept j (by rw [hb₀]; rfl)
          rw [missing] at stored
          cases stored
      rw [queued, absent]
      rfl

theorem Recovering.spawn (h : Recovering b₀ w) :
    Recovering b₀ { w with pool := w.pool.spawn, start := .absent } := by
  refine h.frame rfl rfl (fun φ hφ => ?_) (fun φ hφ _ _ => List.mem_append_left _ hφ) fun _ => Iff.rfl
  rcases List.mem_append.mp hφ with old | new
  · exact .inl old
  · rw [List.eq_of_mem_replicate new]
    exact .inr fun _ => id

private theorem recovering_change {d : Option (Uuid × Exchange)} (h : Recovering b₀ w)
    (hc : Change (Tends w.pool) w w' d) : Recovering b₀ w' := by
  cases hc with
  | @still q same =>
    have started : ∀ id, IsStarted id q ↔ w.pool.IsStarted id := fun id =>
      isStarted_of_silent (same.events.trans (List.append_nil _).symm) nofun
    refine h.frame rfl rfl (fun φ hφ => .inl ?_) (fun φ hφ _ _ => ?_) started
    · rwa [← same.workers]
    · exact same.workers ▸ hφ
  | mark | test | accept =>
    exact h.frame rfl rfl (fun _ => .inl) (fun _ hφ _ _ => hφ) fun _ => Iff.rfl
  | drop =>
    refine h.frame rfl rfl (fun _ => .inl) (fun _ hφ _ _ => hφ) fun _ =>
      isStarted_of_silent rfl fun e he j => ?_
    obtain rfl := List.mem_singleton.mp he
    rfl
  | spawn => exact h.spawn
  | @move v φ ψ events stands moves =>
    have same : φ.taken? = none →
        ∀ id, IsStarted id (w.pool.moved v ψ events) ↔ w.pool.IsStarted id := fun untaken _ =>
      isStarted_of_silent rfl (moves.unstarting untaken)
    cases moves with
    | start => exact h.start stands
    | announce | withdraw | report | leave =>
      exact h.move stands (fun _ => id) (fun _ => id) rfl rfl (same rfl)
    | conclude =>
      obtain ⟨_, _, _, closed⟩ := h.jobs _ (List.mem_of_getElem? stands)
      exact h.work stands rfl h.faultless (fun _ => id) (fun _ _ => rfl) (.of_eq rfl) trivial
        (fun _ => False.elim) (.inr fun s hs => closed s _ hs rfl)
  | take stands head =>
    exact h.move stands (fun _ => id) (fun _ => id) rfl rfl fun _ => isStarted_of_silent rfl nofun
  | @answer v id c next provider stands =>
    obtain ⟨xs, leaves, begun, _⟩ := h.jobs _ (List.mem_of_getElem? stands)
    obtain ⟨others, advances⟩ := statuses_answer leaves provider w.backend
    have keeps := Keeps.answer (b := w.backend) leaves provider
    exact h.work stands rfl (keeps.faultless h.faultless) keeps.stored others advances
      (isTrueTo_answer h.faultless leaves begun) (fun _ => Eq.symm) (.inl rfl)
  | @crash v id m roster next stands =>
    obtain ⟨xs, leaves, begun, _⟩ := h.jobs _ (List.mem_of_getElem? stands)
    refine h.work stands rfl h.faultless (fun _ stored => stored) (fun _ _ => rfl) (.of_eq rfl)
      (fun s hs => ?_) (fun _ => Eq.symm) (.inl rfl)
    -- A job that asks the provider has been begun before.
    rcases Job.next_of_leaves leaves with ⟨_, asks⟩ | ⟨_, _, rfl, _⟩
    · cases asks
    · exact (begun s hs).resolve_left (List.cons_ne_nil _ _)
  | untrack stands =>
    exact h.move stands (fun _ => id) (fun _ => id) rfl rfl fun _ => isStarted_of_silent rfl nofun
  | elsewhere admitted => exact h.elsewhere admitted

private theorem recovering_act (h : Recovering b₀ w) (tended : w.Tended a) :
    Recovering b₀ (w.act a) :=
  recovering_change h (World.change_act a tended)

/-- What is left when a pool has been stopped, given the backend at first and the meetings that have
been dequeued. -/
structure Recovered (b : Backend) (w : World) (dequeued : List Uuid) : Prop where
  /-- Only a crash of the provider leaves a meeting in the middle. -/
  settled : ∀ id, w.backend.store.statusOf? id = some .processing →
    ∃ v : Nat, w.pool.workers[v]? = some (.crashed id)
  queued : ∀ id s, w.backend.store.statusOf? id = some s →
    (s = .queued ↔ id ∉ dequeued ∧ ¬ IsClosed b id)
  requeued : ∀ (settings : Settings) (provider : Provider),
    (w.backend.store.idsByStatus .queued).length ≤ settings.clamped.bufferSize →
    ∃ ids, Attempt.run provider pending w.backend = (.ok ids, w.backend) ∧
      TakesUp w.backend.store (.new settings) ((Pool.new settings).requeue ids).2 ids
        ((Pool.new settings).enqueueAll ids).1 ∧
      ((Pool.new settings).requeue ids).1 = ids.length

private theorem Recovering.of_started {id : Uuid} {s : Status} (h : Recovering b₀ w)
    (atEnd : ∀ φ ∈ w.pool.workers, φ.isOver = true) (started : w.pool.IsStarted id)
    (hs : w.backend.store.statusOf? id = some s) :
    s.isTerminal = true ∨ .crashed id ∈ w.pool.workers := by
  refine (h.started id s started hs).imp_right ?_
  rintro ⟨φ, hφ, concerns⟩
  cases φ with
  | crashed i => exact concerns ▸ hφ
  | working i q => cases atEnd _ hφ
  | starting | idle | taken | finished | reporting | leaving | gone => cases concerns

private theorem Recovering.of_unstarted {id : Uuid} {s : Status} (h : Recovering b₀ w)
    (settled : ∀ id, b₀.store.statusOf? id ≠ some .processing) (unstarted : ¬ w.pool.IsStarted id)
    (hs : w.backend.store.statusOf? id = some s) :
    s ≠ .processing ∧ (s = .queued ↔ ¬ IsClosed b₀ id) := by
  have origin := h.unstarted id s unstarted hs
  cases hb : b₀.store.statusOf? id with
  | none =>
    obtain rfl : s = .queued := by rw [origin, hb, Option.getD_none]
    have isOpen : ¬ IsClosed b₀ id := by simp [IsClosed, hb]
    exact ⟨by decide, iff_of_true rfl isOpen⟩
  | some t =>
    obtain rfl : s = t := by rw [origin, hb, Option.getD_some]
    have closed_iff : IsClosed b₀ id ↔ s.isTerminal = true := by simp [IsClosed, hb]
    rw [closed_iff]
    cases s with
    | queued | done | failed => simp [Status.isTerminal]
    | processing => exact (settled id hb).elim

theorem Recovering.recovered {dequeued : List Uuid} (h : Recovering b₀ w)
    (atEnd : ∀ φ ∈ w.pool.workers, φ.isOver = true)
    (settled : ∀ id, b₀.store.statusOf? id ≠ some .processing)
    (started : ∀ id, w.pool.IsStarted id ↔ id ∈ dequeued) : Recovered b₀ w dequeued := by
  constructor
  case settled =>
    intro id hs
    by_cases begun : w.pool.IsStarted id
    · rcases h.of_started atEnd begun hs with terminal | crashed
      · cases terminal
      · exact List.mem_iff_getElem?.mp crashed
    · exact ((h.of_unstarted settled begun hs).1 rfl).elim
  case queued =>
    intro id s hs
    rw [← started]
    by_cases begun : w.pool.IsStarted id
    · refine ⟨?_, fun ⟨unstarted, _⟩ => (unstarted begun).elim⟩
      rintro rfl
      rcases h.of_started atEnd begun hs with terminal | crashed
      · cases terminal
      · exact (h.jobs _ crashed _ hs rfl).elim
    · exact (h.of_unstarted settled begun hs).2.trans (and_iff_right begun).symm
  case requeued => exact fun settings provider => takesUp_requeue h.faultless settings provider

private theorem ne_processing_of_rows
    (settled : ∀ m ∈ b.store.meetings.rows, m.status ≠ .processing) (id : Uuid) :
    b.store.statusOf? id ≠ some .processing := by
  intro hs
  obtain ⟨m, found, processing⟩ := Store.statusOf?_eq_some.mp hs
  exact settled m (List.mem_of_find?_eq_some found) processing

/-- A pool is run over a backend that disturbs nothing and has no meeting in the middle, with whatever
else happens in whatever order, until a call to stop has returned; no call has been dropped while it
waited for workers, and no workers have been spawned behind its back. Then only meetings in whose
jobs the provider has crashed are in the middle, the queued ones are those that were not terminal at
first and have not been dequeued, and a new pool with room for these accepts them all, each once, the
oldest first, and no other. -/
theorem recovered_of_returned (settings : Settings) (b : Backend) (actions : List Action)
    (faultless : b.faults = []) (settled : ∀ m ∈ b.store.meetings.rows, m.status ≠ .processing)
    (awaits : (World.opened settings b).Along World.Awaits actions)
    (tended : (World.opened settings b).Along World.Tended actions)
    (returned : .returned ∈ ((World.opened settings b).run actions).pool.stops) :
    Recovered b ((World.opened settings b).run actions)
        ((World.opened settings b).notes World.dequeued? actions) ∧
      ((∀ v, .crash v ∉ actions) → ∀ id,
        ((World.opened settings b).run actions).backend.store.statusOf? id ≠ some .processing) := by
  have joined := joined_run (joined_new settings) awaits
  have recovering := World.run_along (recovering_opened settings faultless) recovering_act tended
  have atEnd := joined.stopped (joined.returned returned)
  have recovered := recovering.recovered atEnd (ne_processing_of_rows settled)
    (isStarted_run settings b actions fun φ hφ => Phase.taken?_of_isOver (atEnd φ hφ))
  refine ⟨recovered, fun sound id processing => ?_⟩
  obtain ⟨v, crashed⟩ := recovered.settled id processing
  have whole := crashed?_run (w := World.opened settings b) sound nofun _
    (List.mem_of_getElem? crashed)
  cases whole

/-- Another meeting that is queued beside the first. -/
def twoQueued : Backend :=
  { Backend.oneQueued with store :=
      (Backend.oneQueued.store.createMeeting ⟨"Weekly", "notes", .manual, none⟩ ⟨2⟩ default).2 }

theorem stoppedAfterJob_recovered :
    ∃ ids, Attempt.run Job.silent pending
        ((World.opened ⟨1, 2, 1⟩ twoQueued).run stoppedAfterJob).backend =
        (.ok ids, ((World.opened ⟨1, 2, 1⟩ twoQueued).run stoppedAfterJob).backend) ∧
      ⟨1⟩ ∉ ids ∧ ⟨2⟩ ∈ ids ∧ ((Pool.new ⟨1, 1, 1⟩).requeue ids).2.buffer = ids := by
  have recovered := (recovered_of_returned ⟨1, 2, 1⟩ twoQueued stoppedAfterJob rfl (by decide)
    (by decide +kernel) (World.tended_of_forall_ne (by simp [stoppedAfterJob, stoppedInJob]) _)
    (by decide +kernel)).1
  have room : (((World.opened ⟨1, 2, 1⟩ twoQueued).run stoppedAfterJob).backend.store.idsByStatus
      .queued).length ≤ 1 := by
    rw [Store.idsByStatus, List.length_map, List.length_mergeSort]
    decide +kernel
  obtain ⟨ids, run, takesUp, _⟩ := recovered.requeued ⟨1, 1, 1⟩ Job.silent room
  refine ⟨ids, run, ?_, ?_, ?_⟩
  · rw [takesUp.queued]
    decide +kernel
  · rw [takesUp.queued]
    decide +kernel
  · rw [takesUp.after]

/-- The provider crashes in the job in flight, and the call to stop returns. -/
def stoppedInCrash : List Action :=
  stoppedInJob ++ [.crash 0, .stopStep 0, .endTicker, .stopStep 0]

/-- The pool is stopped before it has done anything. -/
def stoppedAtOnce : List Action :=
  [.callStop, .stopStep 0, .stopStep 0, .stopStep 0, .stopStep 0]

/-- A crash of the provider leaves a meeting in the middle, and a meeting that was terminal at first
is not queued although it has not been dequeued. -/
theorem not_all_meetings_are_recovered :
    (¬ ∀ (settings : Settings) (b : Backend) (actions : List Action), b.faults = [] →
      (∀ m ∈ b.store.meetings.rows, m.status ≠ .processing) →
      (World.opened settings b).Along World.Awaits actions →
      (World.opened settings b).Along World.Tended actions →
      .returned ∈ ((World.opened settings b).run actions).pool.stops →
      ∀ id, ((World.opened settings b).run actions).backend.store.statusOf? id ≠
        some .processing) ∧
    ¬ ∀ (settings : Settings) (b : Backend) (actions : List Action), b.faults = [] →
      (∀ m ∈ b.store.meetings.rows, m.status ≠ .processing) →
      (World.opened settings b).Along World.Awaits actions →
      (World.opened settings b).Along World.Tended actions →
      (∀ v, .crash v ∉ actions) →
      .returned ∈ ((World.opened settings b).run actions).pool.stops →
      ∀ id s, ((World.opened settings b).run actions).backend.store.statusOf? id = some s →
        (s = .queued ↔ id ∉ (World.opened settings b).notes World.dequeued? actions) := by
  constructor
  · intro h
    refine h ⟨1, 2, 1⟩ .oneQueued stoppedInCrash rfl (by decide) (by decide +kernel)
      (World.tended_of_forall_ne (by simp [stoppedInCrash, stoppedInJob]) _) (by decide +kernel) ⟨1⟩ ?_
    decide +kernel
  · intro h
    have queued := h ⟨1, 1, 1⟩ { Backend.oneFailed with faults := [] } stoppedAtOnce rfl (by decide)
      (by decide +kernel) (World.tended_of_forall_ne (by simp [stoppedAtOnce]) _)
      (by simp [stoppedAtOnce]) (by decide +kernel) ⟨1⟩ .failed (by decide +kernel)
    revert queued
    decide +kernel

end Pool

end MeetingInsights
