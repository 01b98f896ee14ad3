import MeetingInsights.Proofs.PoolRuns

/-! # The meetings that a pool tracks

The tracked meetings are those that wait in the buffer and those that workers hold, and none of them
occurs twice: so no meeting is worked on by two workers at once.
-/

namespace MeetingInsights.Pool

def held (p : Pool) : List Uuid := p.workers.filterMap Phase.held?

variable {p : Pool} {v : Nat} {φ : Phase}

theorem workers_split (h : p.workers[v]? = some φ) :
    ∃ before after, p.workers = before ++ φ :: after ∧
      ∀ ψ events, (p.moved v ψ events).workers = before ++ ψ :: after := by
  obtain ⟨hv, rfl⟩ := List.getElem?_eq_some_iff.mp h
  refine ⟨p.workers.take v, p.workers.drop (v + 1), by simp, fun ψ events => ?_⟩
  change p.workers.set v ψ = _
  rw [List.set_eq_take_append_cons_drop, if_pos hv]

theorem filterMap_split {α : Type} (f : Phase → Option α) (h : p.workers[v]? = some φ) :
    ∃ before after, p.workers.filterMap f = before ++ ((f φ).toList ++ after) ∧
      ∀ ψ events, (p.moved v ψ events).workers.filterMap f = before ++ ((f ψ).toList ++ after) := by
  obtain ⟨before, after, hp, hmoved⟩ := workers_split h
  have place : ∀ ψ : Phase, (before ++ ψ :: after).filterMap f =
      before.filterMap f ++ ((f ψ).toList ++ after.filterMap f) := by
    intro ψ
    rw [List.filterMap_append, List.filterMap_cons]
    cases f ψ <;> rfl
  refine ⟨before.filterMap f, after.filterMap f, ?_, fun ψ events => ?_⟩
  · rw [hp, place]
  · rw [hmoved, place]

theorem held_split (h : p.workers[v]? = some φ) :
    ∃ before after, p.held = before ++ (φ.held?.toList ++ after) ∧
      ∀ ψ events, (p.moved v ψ events).held = before ++ (ψ.held?.toList ++ after) :=
  filterMap_split Phase.held? h

theorem held_moved_of_eq {ψ : Phase} (h : p.workers[v]? = some φ) (hφ : ψ.held? = φ.held?)
    (events : List Event) : (p.moved v ψ events).held = p.held := by
  obtain ⟨before, after, hp, hmoved⟩ := held_split h
  rw [hp, hmoved, hφ]

private theorem Moves.held?_eq {φ ψ : Phase} {events : List Event} (h : Moves v φ ψ events) :
    ψ.held? = φ.held? := by
  cases h <;> rfl

theorem eq_of_held (h : p.held.Nodup) {v v' : Nat} {φ ψ : Phase} {id : Uuid}
    (hv : p.workers[v]? = some φ) (hv' : p.workers[v']? = some ψ) (hφ : φ.held? = some id)
    (hψ : ψ.held? = some id) : v = v' := by
  obtain ⟨hlt, rfl⟩ := List.getElem?_eq_some_iff.mp hv
  obtain ⟨hlt', rfl⟩ := List.getElem?_eq_some_iff.mp hv'
  have apart := List.pairwise_iff_getElem.mp (List.pairwise_filterMap.mp h)
  rcases Nat.lt_trichotomy v v' with hlt'' | rfl | hlt''
  · exact (apart v v' hlt hlt' hlt'' id hφ id hψ rfl).elim
  · rfl
  · exact (apart v' v hlt' hlt hlt'' id hψ id hφ rfl).elim

theorem mem_held {id : Uuid} (h : p.workers[v]? = some φ) (hφ : φ.held? = some id) :
    id ∈ p.held := List.mem_filterMap.mpr ⟨φ, List.mem_of_getElem? h, hφ⟩

/-- The tracked meetings are, in some order, those that wait and those that are held, all different;
and no more wait than the buffer takes. -/
structure Tracking (p : Pool) : Prop where
  distinct : (p.buffer ++ p.held).Nodup
  tracked : p.tracked.Perm (p.buffer ++ p.held)
  room : p.buffer.length ≤ p.settings.bufferSize

theorem tracking_new (settings : Settings) : Tracking (.new settings) where
  distinct := List.nodup_nil
  tracked := .nil
  room := Nat.zero_le _

theorem Tracking.of_held_eq {q : Pool} (h : Tracking p) (held : q.held = p.held)
    (buffer : q.buffer = p.buffer) (tracked : q.tracked = p.tracked)
    (settings : q.settings = p.settings) : Tracking q := by
  constructor
  · rw [buffer, held]
    exact h.distinct
  · rw [tracked, buffer, held]
    exact h.tracked
  · rw [buffer, settings]
    exact h.room

theorem Tracking.accept (h : Tracking p) {id : Uuid} (fresh : id ∉ p.tracked)
    (room : p.buffer.length < p.settings.bufferSize) :
    Tracking { p with buffer := p.buffer ++ [id], tracked := id :: p.tracked } := by
  have order : ((p.buffer ++ [id]) ++ p.held).Perm (id :: (p.buffer ++ p.held)) := by
    rw [List.append_assoc]
    exact List.perm_middle
  constructor
  · refine order.nodup_iff.mpr (List.nodup_cons.mpr ⟨?_, h.distinct⟩)
    exact fun hid => fresh (h.tracked.mem_iff.mpr hid)
  · exact (h.tracked.cons id).trans order.symm
  · change (p.buffer ++ [id]).length ≤ _
    rw [List.length_append]
    exact room

theorem Tracking.take (h : Tracking p) {id : Uuid} {rest : List Uuid}
    (idle : p.workers[v]? = some .idle) (head : p.buffer = id :: rest) :
    Tracking { p.moved v (.taken id) [] with buffer := rest } := by
  obtain ⟨before, after, hp, hmoved⟩ := held_split idle
  have order : (rest ++ (p.moved v (.taken id) []).held).Perm (p.buffer ++ p.held) := by
    rw [hmoved, hp, head]
    simp only [Phase.held?, Option.toList_some, Option.toList_none, List.nil_append,
      List.cons_append, ← List.append_assoc]
    exact List.perm_middle
  have room := h.room
  rw [head, List.length_cons] at room
  exact ⟨order.nodup_iff.mpr h.distinct, h.tracked.trans order.symm, Nat.le_of_succ_le room⟩

theorem Tracking.untrack (h : Tracking p) {id : Uuid} {o : Job.Outcome}
    (finished : p.workers[v]? = some (.finished id o)) :
    Tracking { p.moved v (.reporting id o) [] with
      tracked := p.tracked.filter fun t => t ≠ id } := by
  obtain ⟨before, after, hp, hmoved⟩ := held_split finished
  have order : (p.buffer ++ p.held).Perm
      (id :: (p.buffer ++ (p.moved v (.reporting id o) []).held)) := by
    rw [hp, hmoved]
    simp only [Phase.held?, Option.toList_some, Option.toList_none, List.nil_append,
      List.cons_append, ← List.append_assoc]
    exact List.perm_middle
  obtain ⟨hid, distinct⟩ := List.nodup_cons.mp (order.nodup_iff.mp h.distinct)
  -- All others stay tracked, because none of them is this meeting.
  have others : (p.buffer ++ (p.moved v (.reporting id o) []).held).filter (fun t => t ≠ id) =
      p.buffer ++ (p.moved v (.reporting id o) []).held :=
    List.filter_eq_self.mpr fun t ht => decide_eq_true fun he => hid (he ▸ ht)
  have tracked := (h.tracked.trans order).filter fun t => t ≠ id
  rw [List.filter_cons_of_neg (by simp), others] at tracked
  exact ⟨distinct, tracked, h.room⟩

theorem filterMap_held?_starting (n : Nat) :
    (List.replicate n Phase.starting).filterMap Phase.held? = [] :=
  List.filterMap_eq_nil_iff.mpr fun φ hφ => by
    rw [List.eq_of_mem_replicate hφ]
    rfl

private theorem held_spawn (p : Pool) : p.spawn.held = p.held := by
  change (p.workers ++ List.replicate _ _).filterMap _ = _
  rw [List.filterMap_append, filterMap_held?_starting, List.append_nil, held]

theorem tracking_change {others : Backend → Backend → Prop} {w w' : World}
    {d : Option (Uuid × Exchange)} (h : Tracking w.pool) (hc : Change others w w' d) :
    Tracking w'.pool := by
  cases hc with
  | still same =>
    refine h.of_held_eq ?_ same.buffer same.tracked same.settings
    rw [held, same.workers, held]
  | mark | test | drop | elsewhere => exact ⟨h.distinct, h.tracked, h.room⟩
  | spawn cleared => exact h.of_held_eq (held_spawn _) rfl rfl rfl
  | accept fresh room => exact h.accept fresh room
  | move stands moves => exact h.of_held_eq (held_moved_of_eq stands moves.held?_eq _) rfl rfl rfl
  | take stands head => exact h.take stands head
  | answer provider stands =>
    exact h.of_held_eq (held_moved_of_eq stands (by rfl) _) rfl rfl rfl
  | crash stands => exact h.of_held_eq (held_moved_of_eq stands (by rfl) _) rfl rfl rfl
  | untrack stands => exact h.untrack stands

/-- There are no more workers than the settings say, and none before they are spawned once. -/
structure Crewed (settings : Settings) (w : World) : Prop where
  asSet : w.pool.settings = settings
  size : w.pool.workers.length ≤ settings.workerCount
  unspawned : w.start ≠ .absent → w.pool.workers = []
  unstarted : w.pool.isStarted = false → w.start = .absent ∧ w.pool.workers = []

private theorem crewed_opened (settings : Settings) (b : Backend) :
    Crewed settings.clamped (.opened settings b) :=
  ⟨rfl, Nat.zero_le _, fun _ => rfl, fun _ => ⟨rfl, rfl⟩⟩

theorem Crewed.move {settings : Settings} {w : World} {v : Nat} {φ : Phase}
    (h : Crewed settings w) (stands : w.pool.workers[v]? = some φ) {w' : World}
    (hs : w'.pool.settings = w.pool.settings)
    (hw : w'.pool.workers.length = w.pool.workers.length)
    (hstart : w'.start = w.start) (hstarted : w'.pool.isStarted = w.pool.isStarted) :
    Crewed settings w' := by
  have spawned : w.pool.workers ≠ [] := List.ne_nil_of_mem (List.mem_of_getElem? stands)
  constructor
  · rw [hs, h.asSet]
  · rw [hw]
    exact h.size
  · rw [hstart]
    exact fun hne => (spawned (h.unspawned hne)).elim
  · rw [hstarted]
    exact fun hne => (spawned (h.unstarted hne).2).elim

private theorem crewed_change {settings : Settings} {others : Backend → Backend → Prop}
    {w w' : World} {d : Option (Uuid × Exchange)} (h : Crewed settings w)
    (hc : Change others w w' d) : Crewed settings w' := by
  cases hc with
  | still same =>
    constructor
    · rw [same.settings, h.asSet]
    · rw [same.workers]
      exact h.size
    · rw [same.workers]
      exact h.unspawned
    · rw [same.workers, same.isStarted]
      exact h.unstarted
  | mark first =>
    exact ⟨h.asSet, h.size, fun _ => (h.unstarted first).2, fun hs => by cases hs⟩
  | test marked =>
    have unspawned := h.unspawned (by simp [marked])
    refine ⟨h.asSet, h.size, fun _ => unspawned, fun hs => ?_⟩
    have absent := (h.unstarted hs).1
    rw [marked] at absent
    cases absent
  | spawn cleared =>
    have unspawned := h.unspawned (by simp [cleared])
    refine ⟨h.asSet, ?_, fun hne => (hne rfl).elim, fun hs => ?_⟩
    · change (w.pool.workers ++ List.replicate w.pool.settings.workerCount _).length ≤ _
      refine Nat.le_of_eq ?_
      rw [unspawned, List.nil_append, List.length_replicate, h.asSet]
    · have absent := (h.unstarted hs).1
      rw [cleared] at absent
      cases absent
  | accept | drop | elsewhere => exact ⟨h.asSet, h.size, h.unspawned, h.unstarted⟩
  | move stands => exact h.move stands rfl List.length_set rfl rfl
  | take stands => exact h.move stands rfl List.length_set rfl rfl
  | answer provider stands => exact h.move stands rfl List.length_set rfl rfl
  | crash stands => exact h.move stands rfl List.length_set rfl rfl
  | untrack stands => exact h.move stands rfl List.length_set rfl rfl

/-- What a pool is known to track, and how much of it waits and is held. -/
structure TracksExactly (p : Pool) : Prop where
  tracked : ∀ id, id ∈ p.tracked ↔ id ∈ p.buffer ∨ id ∈ p.held
  once : p.tracked.Nodup
  distinct : (p.buffer ++ p.held).Nodup
  depth : p.isOpen = true → p.queueDepth = p.buffer.length ∧ p.queueDepth ≤ p.settings.bufferSize
  crew : p.held.length ≤ p.settings.workerCount
  alone : ∀ {v v' : Nat} {φ ψ : Phase} {id : Uuid}, p.workers[v]? = some φ →
    p.workers[v']? = some ψ → φ.held? = some id → ψ.held? = some id → v = v'

theorem Tracking.exactly (h : Tracking p) (crew : p.workers.length ≤ p.settings.workerCount) :
    TracksExactly p where
  tracked id := h.tracked.mem_iff.trans List.mem_append
  once := h.tracked.nodup_iff.mpr h.distinct
  distinct := h.distinct
  depth hopen := by
    have hdepth : p.queueDepth = p.buffer.length := if_pos hopen
    exact ⟨hdepth, by rw [hdepth]; exact h.room⟩
  crew := Nat.le_trans (List.length_filterMap_le _ _) crew
  alone hv hv' hφ hψ := eq_of_held (List.nodup_append.mp h.distinct).2.1 hv hv' hφ hψ

/-- In every run of a pool, whatever its settings and whatever happens in whatever order, the
tracked meetings are exactly the different ones that wait or are held, the buffer keeps to its size,
and no meeting is held by two workers. -/
theorem tracks_exactly (settings : Settings) (b : Backend) (actions : List Action) :
    ((World.opened settings b).run actions).pool.settings = settings.clamped ∧
      ((World.opened settings b).run actions).pool.TracksExactly := by
  have tracking := (World.opened settings b).run_keeps (J := fun w => Tracking w.pool)
    (tracking_new settings) tracking_change actions
  have crewed := (World.opened settings b).run_keeps (J := Crewed settings.clamped)
    (crewed_opened settings b) crewed_change actions
  refine ⟨crewed.asSet, tracking.exactly ?_⟩
  rw [crewed.asSet]
  exact crewed.size

end MeetingInsights.Pool
