import MeetingInsights.Proofs.Admissions
import MeetingInsights.Proofs.Recovery

/-! # Rounds of offers

A round offers all queued meetings to a pool that may be in use. What comes of each is decided by
which of them the pool lacks and how many it has room for: the first that it lacks are accepted, as
many as there is room for, and the others are dropped.
-/

namespace MeetingInsights

theorem MeetingTable.find?_eq_some_iff {t : MeetingTable} {id : Uuid} {m : Meeting} :
    t.find? id = some m ↔ m ∈ t.rows ∧ m.id = id := by
  constructor
  · exact fun found => ⟨List.mem_of_find?_eq_some found, find?_eq_some found⟩
  · rintro ⟨stored, rfl⟩
    exact find?_of_mem stored

namespace Store

variable {s t : Store} {ids ids' : List Uuid}

private theorem olderOrEqual_antisymm {a b : Meeting} (hab : olderOrEqual a b = true)
    (hba : olderOrEqual b a = true) : a.id = b.id := by
  rw [olderOrEqual_iff] at hab hba
  rcases hab with older | ⟨same, less⟩
  · rcases hba with younger | ⟨same, _⟩
    · exact (List.lt_irrefl _ (List.lt_trans older younger)).elim
    · exact (List.lt_irrefl _ (same ▸ older)).elim
  · rcases hba with younger | ⟨_, more⟩
    · exact (List.lt_irrefl _ (same ▸ younger)).elim
    · exact congrArg Uuid.mk (BitVec.eq_of_toNat_eq (Nat.le_antisymm less more))

theorem Ages.unique (ages : s.Ages ids) (ages' : s.Ages ids') (distinct : ids.Nodup)
    (distinct' : ids'.Nodup) (same : ∀ id, id ∈ ids ↔ id ∈ ids') : ids = ids' := by
  refine ((List.perm_ext_iff_of_nodup distinct distinct').mpr same).eq_of_pairwise ?_ ages ages'
  rintro i j - - ⟨a, b, hi, hj, older⟩ ⟨b', a', hj', hi', younger⟩
  obtain rfl := Option.some.inj (hi.symm.trans hi')
  obtain rfl := Option.some.inj (hj.symm.trans hj')
  rw [← MeetingTable.find?_eq_some hi, ← MeetingTable.find?_eq_some hj]
  exact olderOrEqual_antisymm older younger

theorem find?_of_perm (perm : t.meetings.rows.Perm s.meetings.rows) (id : Uuid) :
    t.meetings.find? id = s.meetings.find? id := by
  ext m
  rw [MeetingTable.find?_eq_some_iff, MeetingTable.find?_eq_some_iff, perm.mem_iff]

private theorem idsByStatus_of_perm (perm : t.meetings.rows.Perm s.meetings.rows)
    (status : Status) : t.idsByStatus status = s.idsByStatus status := by
  have ages : s.Ages (t.idsByStatus status) := by
    have older := t.ages_idsByStatus status
    simp only [Ages, find?_of_perm perm] at older
    exact older
  refine ages.unique (s.ages_idsByStatus status) (t.nodup_idsByStatus status)
    (s.nodup_idsByStatus status) fun id => ?_
  rw [mem_idsByStatus, mem_idsByStatus, statusOf?, find?_of_perm perm, statusOf?]

/-- The queued meetings of a store, each once, the oldest first, in whatever order the rows are
kept. -/
structure Queues (s : Store) (ids : List Uuid) : Prop where
  queued : ∀ id, id ∈ ids ↔ s.statusOf? id = some .queued
  distinct : ids.Nodup
  ages : s.Ages ids
  kept : ∀ t : Store, t.meetings.rows.Perm s.meetings.rows → t.idsByStatus .queued = ids

private theorem queues_idsByStatus (s : Store) : s.Queues (s.idsByStatus .queued) where
  queued _ := mem_idsByStatus
  distinct := s.nodup_idsByStatus .queued
  ages := s.ages_idsByStatus .queued
  kept _ perm := idsByStatus_of_perm perm .queued

end Store

namespace Pool

variable {p : Pool} {w : World} {a : Action} {ids : List Uuid} {during : List Action}

/-- A pool that has been offered meetings has room for none of those that it lacks. -/
theorem full_or_known_served (p : Pool) (ids : List Uuid) :
    (p.served ids).free = 0 ∨ (p.served ids).fresh ids = [] := by
  rcases Nat.le_total p.free (p.fresh ids).length with few | enough
  · left
    simp only [free, served, List.length_append, List.length_take]
    simp only [free] at few
    omega
  · right
    refine List.filter_eq_nil_iff.mpr fun id hid => ?_
    have all : (p.served ids).tracked = (p.fresh ids).reverse ++ p.tracked := by
      rw [served, List.take_of_length_le enough]
    by_cases known : id ∈ p.tracked
    · simp [all, known]
    · have new : id ∈ p.fresh ids := List.mem_filter.mpr ⟨hid, decide_eq_true known⟩
      simp [all, new]

private theorem requeue_served (isOpen : p.isOpen = true) (distinct : ids.Nodup) :
    ((p.served ids).requeue ids).1 = 0 ∧
      ((p.served ids).requeue ids).2.buffer = (p.served ids).buffer := by
  obtain ⟨after, count⟩ := enqueueAll_of_open (p := p.served ids) isOpen distinct
  have nothing : ((p.served ids).fresh ids).take (p.served ids).free = [] := by
    rcases p.full_or_known_served ids with full | known
    · rw [full, List.take_zero]
    · rw [known, List.take_nil]
  rw [requeue]
  constructor
  · change acceptedCount _ = 0
    rw [count, Nat.min_comm, ← List.length_take, nothing, List.length_nil]
  · change ((p.served ids).enqueueAll ids).2.buffer = _
    rw [after, served, nothing, List.append_nil]

private theorem requeue_of_closed (closed : p.isOpen = false) (ids : List Uuid) :
    p.requeue ids = (0, p) := by
  have all : p.enqueueAll ids = (List.replicate ids.length .closed, p) := by
    induction ids with
    | nil => rfl
    | cons id ids ih =>
      simp only [enqueueAll, enqueue_of_closed closed, ih]
      rfl
  rw [requeue, all]
  simp [acceptedCount, List.count_replicate]

/-- The meetings of a list that neither wait in a pool nor are held by a worker. -/
def missing (p : Pool) (ids : List Uuid) : List Uuid :=
  ids.filter fun id => ¬(id ∈ p.buffer ∨ id ∈ p.held)

private theorem missing_cons (p : Pool) (id : Uuid) (ids : List Uuid) : p.missing (id :: ids) =
    (if id ∈ p.buffer ∨ id ∈ p.held then none else some id).toList ++ p.missing ids := by
  rw [missing, List.filter_cons, missing]
  split <;> split <;> simp_all

theorem Tracking.fresh_eq (h : Tracking p) (ids : List Uuid) : p.fresh ids = p.missing ids :=
  List.filter_congr fun _ _ =>
    decide_eq_decide.mpr (not_congr (h.tracked.mem_iff.trans List.mem_append))

/-- What a pool makes of a round of offers: it accepts the first of the meetings that it lacks, as
many as it has room for, and drops the others, each with an event. Of a second round right after it
accepts none. -/
structure TakesFirst (p : Pool) (ids : List Uuid) : Prop where
  count : (p.requeue ids).1 = min (p.missing ids).length p.free
  after : (p.requeue ids).2 =
    { p with
      buffer := p.buffer ++ (p.missing ids).take p.free
      tracked := ((p.missing ids).take p.free).reverse ++ p.tracked
      events := p.events ++ ((p.missing ids).drop p.free).map .jobDropped }
  again : ((p.requeue ids).2.requeue ids).1 = 0
  settled : ((p.requeue ids).2.requeue ids).2.buffer = (p.requeue ids).2.buffer

private theorem Tracking.takesFirst (h : Tracking p) (isOpen : p.isOpen = true)
    (distinct : ids.Nodup) : TakesFirst p ids := by
  obtain ⟨after, count⟩ := enqueueAll_of_open isOpen distinct
  obtain ⟨again, settled⟩ := requeue_served isOpen distinct
  have same : (p.requeue ids).2 = p.served ids := after
  refine ⟨h.fresh_eq ids ▸ count, ?_, same ▸ again, ?_⟩
  · rw [same, served, h.fresh_eq]
  · rw [same]
    exact settled

def Action.offer? : Action → Option Uuid
  | .enqueue id => some id
  | _ => none

def Event.dropped? : Event → Option Uuid
  | .jobDropped id => some id
  | _ => none

/-- The meeting that an action offers and that neither waits nor is held then. -/
def World.lacked? (w : World) : Action → Option Uuid
  | .enqueue id => if id ∈ w.pool.buffer ∨ id ∈ w.pool.held then none else some id
  | _ => none

private theorem dropped?_ofOutcome (id : Uuid) (o : Job.Outcome) :
    (Event.ofOutcome id o).dropped? = none := by
  cases o <;> rfl

section Step

variable {q : Pool} {accepted dropped dequeued : Option Uuid}

theorem Serves.tells (h : Serves p a accepted dropped dequeued q) :
    q.events.filterMap Event.dropped? = p.events.filterMap Event.dropped? ++ dropped.toList := by
  have silent : ∀ {v φ ψ es}, Shifts a v φ ψ es → es.filterMap Event.dropped? = [] := by
    intro v φ ψ es shifts
    cases shifts with
    | report => simp [dropped?_ofOutcome]
    | announce | withdraw | start | answer | conclude | crash | untrack | leave => rfl
  cases h with
  | rest _ _ events | accept _ _ events | spawn _ _ events => simp [events]
  | drop _ _ events => simp [events, Event.dropped?]
  | dequeue _ _ _ events => simp [events, Event.dropped?]
  | shift _ shifts _ _ events => simp [events, silent shifts]

private theorem Serves.held_eq (h : Serves p a accepted dropped none q)
    (steady : ∀ v, a ≠ .untrack v) : q.held = p.held := by
  cases h with
  | rest _ workers | accept _ workers | drop _ workers => rw [held, workers, held]
  | spawn _ workers =>
    rw [held, workers, List.filterMap_append, filterMap_held?_starting, List.append_nil, held]
  | @shift _ v φ ψ es stands shifts _ workers =>
    have same : ψ.held? = φ.held? := by
      cases shifts with
      | untrack turn => exact (steady _ turn).elim
      | announce | withdraw | start | answer | conclude | crash | report | leave => rfl
    rw [held, workers]
    exact held_moved_of_eq stands same []

end Step

/-- What an action that dequeues nothing comes to for an open pool: the meeting that it offers and
the pool lacks, the one that is accepted and the one that is dropped, with the room that is left. -/
inductive Answers (p : Pool) : Option Uuid → Option Uuid → Option Uuid → Pool → Prop where
  | quiet {q} (room : q.free = p.free) : Answers p none none none q
  | taken {q} (id : Uuid) (room : p.free = q.free + 1) : Answers p (some id) (some id) none q
  | refused {q} (id : Uuid) (full : p.free = 0) (room : q.free = 0) :
      Answers p (some id) none (some id) q

namespace World

private theorem free_act (quiet : w.offered? .enqueued a = none)
    (undisturbed : w.dequeued? a = none) : (w.act a).pool.free = w.pool.free := by
  have queue := (serves_act w a).queue
  rw [quiet, undisturbed, Option.toList_none, List.append_nil, List.nil_append] at queue
  have settings : (w.act a).pool.settings = w.pool.settings := settings_run w [a]
  rw [free, settings, ← queue, free]

private theorem answers_act (tracking : Tracking w.pool) (isOpen : w.pool.isOpen = true)
    (undisturbed : w.dequeued? a = none) :
    Answers w.pool (w.lacked? a) (w.offered? .enqueued a) (w.offered? .dropped a)
      (w.act a).pool := by
  have other : w.lacked? a = none → w.offered? .enqueued a = none → w.offered? .dropped a = none →
      Answers w.pool (w.lacked? a) (w.offered? .enqueued a) (w.offered? .dropped a)
        (w.act a).pool := by
    intro lacks accepts drops
    rw [lacks, drops, accepts]
    exact .quiet (free_act accepts undisturbed)
  cases a with
  | enqueue id =>
    have offered := offered_enqueue isOpen id
    have knows : id ∈ w.pool.tracked ↔ id ∈ w.pool.buffer ∨ id ∈ w.pool.held :=
      tracking.tracked.mem_iff.trans List.mem_append
    simp only [lacked?, offered?, act, ← knows]
    generalize w.pool.enqueue id = answer at offered ⊢
    cases offered with
    | known tracked =>
      rw [if_pos tracked]
      exact .quiet rfl
    | taken new room =>
      rw [if_neg new]
      refine .taken id ?_
      simp only [free, List.length_append, List.length_singleton] at room ⊢
      omega
    | refused new full =>
      rw [if_neg new]
      exact .refused id full full
  | markStart | testStart | spawn | announce | take | takeLate | startJob | work | crash | untrack
  | report | leave | endTicker | callStop | stopStep | cancelStop | elsewhere =>
    exact other rfl rfl rfl

theorem undisturbed_cons (h : w.notes dequeued? (a :: during) = []) :
    w.dequeued? a = none ∧ (w.act a).notes dequeued? during = [] := by
  obtain ⟨now, later⟩ := List.append_eq_nil_iff.mp h
  exact ⟨Option.toList_eq_nil_iff.mp now, later⟩

/-- As long as nobody dequeues, the first meetings that a pool lacks are accepted. -/
theorem answers_run (tracking : Tracking w.pool) (isOpen : (w.run during).pool.isOpen = true)
    (undisturbed : w.notes dequeued? during = []) :
    w.notes (offered? .enqueued) during = (w.notes lacked? during).take w.pool.free ∧
      w.notes (offered? .dropped) during = (w.notes lacked? during).drop w.pool.free := by
  induction during generalizing w with
  | nil => exact ⟨List.take_nil.symm, List.drop_nil.symm⟩
  | cons a during ih =>
    obtain ⟨now, later⟩ := undisturbed_cons undisturbed
    have before : w.pool.isOpen = true := by
      refine Bool.of_not_eq_false fun closed => ?_
      rw [(isOpen_run w (a :: during)).mpr (.inl closed)] at isOpen
      cases isOpen
    obtain ⟨accepted, dropped⟩ := ih (tracking_act tracking a) isOpen later
    have answers := answers_act tracking before now
    rw [notes, notes, notes, accepted, dropped]
    generalize (w.act a).notes lacked? during = rest, (w.act a).pool = q, w.lacked? a = lacked,
      w.offered? .enqueued a = takes, w.offered? .dropped a = drops at answers ⊢
    cases answers with
    | quiet room => simp [room]
    | taken id room => simp [room]
    | refused id full room => simp [full, room]

private theorem busy_act (undisturbed : w.dequeued? a = none) (steady : ∀ v, a ≠ .untrack v)
    (id : Uuid) : id ∈ (w.act a).pool.buffer ∨ id ∈ (w.act a).pool.held ↔
      (id ∈ w.pool.buffer ∨ id ∈ w.pool.held) ∨ w.offered? .enqueued a = some id := by
  have serves := serves_act w a
  rw [undisturbed] at serves
  have queue := serves.queue
  rw [Option.toList_none, List.nil_append] at queue
  rw [serves.held_eq steady, ← queue, List.mem_append, Option.mem_toList]
  exact or_right_comm

private theorem lacks_missing (undisturbed : w.notes dequeued? during = [])
    (steady : ∀ v, .untrack v ∉ during) (distinct : (during.filterMap Action.offer?).Nodup) :
    w.notes lacked? during = w.pool.missing (during.filterMap Action.offer?) := by
  induction during generalizing w with
  | nil => rfl
  | cons a during ih =>
    obtain ⟨now, later⟩ := undisturbed_cons undisturbed
    have still : ∀ v, a ≠ .untrack v := fun v same => steady v (same ▸ List.mem_cons_self)
    have busy := busy_act now still
    have rest := ih later fun v hv => steady v (List.mem_cons_of_mem a hv)
    -- Of the meetings that are yet to be offered none is accepted by this action.
    have same : (∀ id ∈ during.filterMap Action.offer?, w.offered? .enqueued a ≠ some id) →
        (w.act a).pool.missing (during.filterMap Action.offer?) =
          w.pool.missing (during.filterMap Action.offer?) := fun others =>
      List.filter_congr fun id hid => decide_eq_decide.mpr
        (not_congr ((busy id).trans (or_iff_left (others id hid))))
    rw [notes]
    cases a with
    | enqueue id =>
      change (id :: during.filterMap Action.offer?).Nodup at distinct
      change _ = w.pool.missing (id :: during.filterMap Action.offer?)
      obtain ⟨new, distinct⟩ := List.nodup_cons.mp distinct
      rw [rest distinct, same, missing_cons, lacked?]
      intro i hi accepted
      obtain ⟨_, rfl⟩ : (w.pool.enqueue id).1 = .enqueued ∧ id = i := by
        simpa [offered?] using accepted
      exact new hi
    | markStart | testStart | spawn | announce | take | takeLate | startJob | work | crash | untrack
    | report | leave | endTicker | callStop | stopStep | cancelStop | elsewhere =>
      exact (rest distinct).trans (same fun i _ => (Option.some_ne_none i).symm)

private theorem tells_run (w : World) (actions : List Action) :
    (w.run actions).pool.events.filterMap Event.dropped? =
      w.pool.events.filterMap Event.dropped? ++ w.notes (offered? .dropped) actions := by
  induction actions generalizing w with
  | nil => exact (List.append_nil _).symm
  | cons a actions ih =>
    change ((w.act a).run actions).pool.events.filterMap Event.dropped? = _
    rw [ih, (serves_act w a).tells, List.append_assoc]
    rfl

end World

/-- What comes of the offers of a round while workers and others act as well. Whether the pool lacks
a meeting is seen when it is offered, and if no job comes to its end meanwhile as well at first. -/
structure TakesFirstAmong (w : World) (ids : List Uuid) (during : List Action) : Prop where
  accepted : w.notes (World.offered? .enqueued) during =
    (w.notes World.lacked? during).take w.pool.free
  dropped : w.notes (World.offered? .dropped) during =
    (w.notes World.lacked? during).drop w.pool.free
  buffer : (w.run during).pool.buffer =
    w.pool.buffer ++ (w.notes World.lacked? during).take w.pool.free
  told : (w.run during).pool.events.filterMap Event.dropped? =
    w.pool.events.filterMap Event.dropped? ++ (w.notes World.lacked? during).drop w.pool.free
  steady : (∀ v, .untrack v ∉ during) → w.notes World.lacked? during = w.pool.missing ids

private theorem takesFirstAmong_of_offers (tracking : Tracking w.pool) (distinct : ids.Nodup)
    (offers : during.filterMap Action.offer? = ids)
    (undisturbed : w.notes World.dequeued? during = [])
    (isOpen : (w.run during).pool.isOpen = true) : TakesFirstAmong w ids during := by
  obtain ⟨accepted, dropped⟩ := World.answers_run tracking isOpen undisturbed
  have queue := w.queue_run during
  rw [undisturbed, List.nil_append] at queue
  constructor
  case accepted => exact accepted
  case dropped => exact dropped
  case buffer => rw [← queue, accepted]
  case told => rw [World.tells_run, dropped]
  case steady =>
    intro steady
    subst offers
    exact World.lacks_missing undisturbed steady distinct

/-- The queued meetings of a store are offered to a pool that has been run with whatever happening
in whatever order. An open one accepts the first of those that it lacks, as many as it has room for,
and drops the others; of a second round it accepts none. It does so among other actions as well, as
long as nobody dequeues. A closed one is left as it is, and the store is only read. -/
theorem requeues_exactly (settings : Settings) (b₀ : Backend) (actions : List Action)
    (provider : Provider) {b : Backend} (faultless : b.faults = []) :
    let w := (World.opened settings b₀).run actions
    ∃ ids, Attempt.run provider pending b = (.ok ids, b) ∧ b.store.Queues ids ∧
      (w.pool.isOpen = true → TakesFirst w.pool ids) ∧
      (w.pool.isOpen = false → w.pool.requeue ids = (0, w.pool)) ∧
      ∀ during, during.filterMap Action.offer? = ids → w.notes World.dequeued? during = [] →
        (w.run during).pool.isOpen = true → TakesFirstAmong w ids during := by
  intro w
  have tracking : Tracking w.pool := (known_run (known_opened settings b₀) actions).tracking
  have queues := b.store.queues_idsByStatus
  refine ⟨b.store.idsByStatus .queued, ?_, queues, ?_, ?_, ?_⟩
  · exact run_pending faultless provider
  · exact fun isOpen => tracking.takesFirst isOpen queues.distinct
  · exact fun closed => requeue_of_closed closed _
  · intro during offers undisturbed isOpen
    exact takesFirstAmong_of_offers tracking queues.distinct offers undisturbed isOpen

/-- Two meetings are queued and there is room for one: the older is accepted, the other dropped. -/
theorem requeues_twoQueued :
    ∃ ids, Attempt.run Job.silent pending twoQueued = (.ok ids, twoQueued) ∧
      ids = [⟨1⟩, ⟨2⟩] ∧ ((Pool.new ⟨1, 1, 1⟩).requeue ids).1 = 1 ∧
      ((Pool.new ⟨1, 1, 1⟩).requeue ids).2.buffer = [⟨1⟩] ∧
      ((Pool.new ⟨1, 1, 1⟩).requeue ids).2.events = [.jobDropped ⟨2⟩] := by
  obtain ⟨ids, run, queues, takes, _⟩ :=
    requeues_exactly ⟨1, 1, 1⟩ twoQueued [] Job.silent (b := twoQueued) rfl
  have ages : twoQueued.store.Ages [⟨1⟩, ⟨2⟩] :=
    List.pairwise_pair.mpr ⟨_, _, rfl, rfl, by decide +kernel⟩
  have queued : ∀ m ∈ twoQueued.store.meetings.rows, m.status = .queued := by decide +kernel
  have all : ids = [⟨1⟩, ⟨2⟩] := by
    refine queues.ages.unique ages queues.distinct (by decide) fun id => ?_
    rw [queues.queued, Store.statusOf?_eq_some, show [⟨1⟩, ⟨2⟩] =
      twoQueued.store.meetings.rows.map Meeting.id by decide +kernel, List.mem_map]
    refine exists_congr fun m => ?_
    rw [MeetingTable.find?_eq_some_iff]
    exact ⟨fun h => h.1, fun h => ⟨h, queued m h.1⟩⟩
  subst all
  have taken := takes rfl
  refine ⟨_, run, rfl, taken.count, ?_, ?_⟩
  · exact congrArg Pool.buffer taken.after
  · exact congrArg Pool.events taken.after

end Pool

end MeetingInsights
