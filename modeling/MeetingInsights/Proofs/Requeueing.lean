import MeetingInsights.Ingest
import MeetingInsights.Proofs.ReachableStores

/-! # Offering the queued meetings again

The queued meetings stand in the order of their age, each once. An open pool that they are offered
to in that order accepts the first of those that it does not track, as many as it has room for; a
pool that nobody has used and that has room for all accepts them all.
-/

namespace MeetingInsights

namespace Timestamp

def fields (t : Timestamp) : List Int :=
  [t.year, t.month, t.day, t.hour, t.minute, t.second, t.nano]

theorem fields_injective : Function.Injective fields := by
  intro a b h
  obtain ⟨_, _, _, _, _, _, _⟩ := a
  obtain ⟨_, _, _, _, _, _, _⟩ := b
  simp only [fields, List.cons.injEq, Int.ofNat_inj, and_true] at h
  rw [Timestamp.mk.injEq]
  exact h

private theorem le_iff {a b : Timestamp} : a.le b = true ↔ a.fields < b.fields ∨ a = b := by
  change (!(b.fields).lex a.fields) = true ↔ _
  rw [Bool.not_eq_true', List.lex_eq_false_iff_ge, List.le_iff_lt_or_eq, fields_injective.eq_iff]

private theorem lt_or_eq_or_gt (a b : Timestamp) :
    a.fields < b.fields ∨ a = b ∨ b.fields < a.fields := by
  rcases List.le_total a.fields b.fields with h | h
  · exact (List.le_iff_lt_or_eq.mp h).imp_right fun same => .inl (fields_injective same)
  · rcases List.le_iff_lt_or_eq.mp h with less | same
    · exact .inr (.inr less)
    · exact .inr (.inl (fields_injective same).symm)

end Timestamp

namespace Store

theorem olderOrEqual_iff {a b : Meeting} : olderOrEqual a b = true ↔
    a.createdAt.fields < b.createdAt.fields ∨
      a.createdAt = b.createdAt ∧ a.id.bits.toNat ≤ b.id.bits.toNat := by
  unfold olderOrEqual
  by_cases same : a.createdAt = b.createdAt
  · rw [if_pos same, same, decide_eq_true_iff]
    exact ⟨fun ids => .inr ⟨rfl, ids⟩, fun older => (older.resolve_left (List.lt_irrefl _)).2⟩
  · rw [if_neg same, Timestamp.le_iff]
    simp [same]

private theorem olderOrEqual_trans (a b c : Meeting) (hab : olderOrEqual a b = true)
    (hbc : olderOrEqual b c = true) : olderOrEqual a c = true := by
  rw [olderOrEqual_iff] at hab hbc ⊢
  rcases hab with hab | ⟨hab, ids⟩
  · rcases hbc with hbc | ⟨hbc, _⟩
    · exact .inl (List.lt_trans hab hbc)
    · exact .inl (hbc ▸ hab)
  · rcases hbc with hbc | ⟨hbc, ids'⟩
    · exact .inl (hab ▸ hbc)
    · exact .inr ⟨hab.trans hbc, Nat.le_trans ids ids'⟩

private theorem olderOrEqual_total (a b : Meeting) :
    (olderOrEqual a b || olderOrEqual b a) = true := by
  rw [Bool.or_eq_true, olderOrEqual_iff, olderOrEqual_iff]
  rcases Timestamp.lt_or_eq_or_gt a.createdAt b.createdAt with older | same | younger
  · exact .inl (.inl older)
  · exact (Nat.le_total a.id.bits.toNat b.id.bits.toNat).imp (fun h => .inr ⟨same, h⟩)
      fun h => .inr ⟨same.symm, h⟩
  · exact .inr (.inl younger)

/-- Meetings stand in the order of their age, the oldest first. -/
def Ages (s : Store) (ids : List Uuid) : Prop :=
  ids.Pairwise fun i j => ∃ a b, s.meetings.find? i = some a ∧ s.meetings.find? j = some b ∧
    olderOrEqual a b = true

end Store

theorem MeetingTable.find?_of_mem {t : MeetingTable} {m : Meeting} (h : m ∈ t.rows) :
    t.find? m.id = some m := Store.find?_key_of_mem t.nodup h

namespace Store

variable {s : Store} {status : Status} {id : Uuid}

theorem mem_idsByStatus : id ∈ s.idsByStatus status ↔ s.statusOf? id = some status := by
  unfold idsByStatus
  rw [List.mem_map, statusOf?_eq_some]
  constructor
  · rintro ⟨m, hm, rfl⟩
    obtain ⟨stored, hstatus⟩ := List.mem_filter.mp (List.mem_mergeSort.mp hm)
    exact ⟨m, MeetingTable.find?_of_mem stored, of_decide_eq_true hstatus⟩
  · rintro ⟨m, found, hstatus⟩
    refine ⟨m, List.mem_mergeSort.mpr (List.mem_filter.mpr ⟨List.mem_of_find?_eq_some found, ?_⟩),
      MeetingTable.find?_eq_some found⟩
    exact decide_eq_true hstatus

theorem nodup_idsByStatus (s : Store) (status : Status) : (s.idsByStatus status).Nodup := by
  unfold idsByStatus
  rw [((List.mergeSort_perm _ _).map Meeting.id).nodup_iff]
  exact s.meetings.nodup.sublist (List.filter_sublist.map Meeting.id)

theorem ages_idsByStatus (s : Store) (status : Status) : s.Ages (s.idsByStatus status) := by
  have sorted := List.pairwise_mergeSort olderOrEqual_trans olderOrEqual_total
    (s.meetings.rows.filter fun m => m.status = status)
  unfold Ages idsByStatus
  rw [List.pairwise_map]
  refine sorted.imp_of_mem fun ha hb older => ?_
  have stored : ∀ {m : Meeting}, m ∈ (s.meetings.rows.filter fun m => m.status = status).mergeSort
      olderOrEqual → s.meetings.find? m.id = some m := fun hm =>
    MeetingTable.find?_of_mem (List.mem_filter.mp (List.mem_mergeSort.mp hm)).1
  exact ⟨_, _, stored ha, stored hb, older⟩

end Store

namespace Pool

variable {p : Pool} {ids : List Uuid}

def fresh (p : Pool) (ids : List Uuid) : List Uuid := ids.filter fun id => id ∉ p.tracked

def free (p : Pool) : Nat := p.settings.bufferSize - p.buffer.length

/-- A pool that has accepted the first ones of the meetings that it does not track, as many as it
had room for, and has dropped the others. -/
def served (p : Pool) (ids : List Uuid) : Pool :=
  { p with
    buffer := p.buffer ++ (p.fresh ids).take p.free
    tracked := ((p.fresh ids).take p.free).reverse ++ p.tracked
    events := p.events ++ ((p.fresh ids).drop p.free).map .jobDropped }

private theorem fresh_cons_of_mem {id : Uuid} (tracked : id ∈ p.tracked) :
    p.fresh (id :: ids) = p.fresh ids := List.filter_cons_of_neg (by simpa using tracked)

theorem fresh_cons_of_notMem {id : Uuid} (untracked : id ∉ p.tracked) :
    p.fresh (id :: ids) = id :: p.fresh ids := List.filter_cons_of_pos (by simpa using untracked)

theorem fresh_accept {id : Uuid} (new : id ∉ ids) :
    ({ p with buffer := p.buffer ++ [id], tracked := id :: p.tracked } : Pool).fresh ids =
      p.fresh ids := by
  refine List.filter_congr fun i hi => ?_
  have other : i ≠ id := fun same => new (same ▸ hi)
  simp [other]

/-- What comes of one offer to an open pool. -/
inductive Offered (p : Pool) (id : Uuid) : EnqueueOutcome × Pool → Prop where
  | known (tracked : id ∈ p.tracked) : Offered p id (.duplicate, p)
  | taken (new : id ∉ p.tracked) (room : 0 < p.free) :
      Offered p id (.enqueued, { p with buffer := p.buffer ++ [id], tracked := id :: p.tracked })
  | refused (new : id ∉ p.tracked) (full : p.free = 0) :
      Offered p id (.dropped, p.emit (.jobDropped id))

theorem offered_enqueue (isOpen : p.isOpen = true) (id : Uuid) : Offered p id (p.enqueue id) := by
  rw [enqueue, if_neg (by simp [isOpen])]
  split
  · exact .known ‹_›
  · split
    · exact .taken ‹_› (Nat.sub_pos_of_lt ‹_›)
    · exact .refused ‹_› (Nat.sub_eq_zero_of_le (Nat.le_of_not_lt ‹_›))

theorem enqueueAll_of_open (isOpen : p.isOpen = true) (distinct : ids.Nodup) :
    (p.enqueueAll ids).2 = p.served ids ∧
      acceptedCount (p.enqueueAll ids).1 = min (p.fresh ids).length p.free := by
  induction ids generalizing p with
  | nil => simp [enqueueAll, served, fresh, acceptedCount]
  | cons id ids ih =>
    obtain ⟨new, distinct⟩ := List.nodup_cons.mp distinct
    have offered := offered_enqueue isOpen id
    rw [enqueueAll]
    generalize p.enqueue id = answer at offered ⊢
    cases offered with
    | known tracked =>
      obtain ⟨after, count⟩ := ih isOpen distinct
      rw [served, fresh_cons_of_mem tracked]
      exact ⟨after, by simpa [acceptedCount] using count⟩
    | taken untracked room =>
      -- One place of the buffer is taken by this meeting, and the others get what is left.
      obtain ⟨k, hk⟩ := Nat.exists_eq_add_one_of_ne_zero (Nat.ne_of_gt room)
      have less : ({ p with buffer := p.buffer ++ [id], tracked := id :: p.tracked } : Pool).free =
          k := by
        simp only [free, List.length_append, List.length_singleton] at hk ⊢
        omega
      obtain ⟨after, count⟩ :=
        ih (p := { p with buffer := p.buffer ++ [id], tracked := id :: p.tracked }) isOpen distinct
      rw [served, fresh_accept new, less] at after
      rw [fresh_accept new, less] at count
      rw [served, fresh_cons_of_notMem untracked, hk]
      refine ⟨after.trans (by simp), ?_⟩
      simp only [acceptedCount, List.count_cons_self, List.length_cons] at count ⊢
      omega
    | refused untracked full =>
      obtain ⟨after, count⟩ := ih (p := p.emit (.jobDropped id)) isOpen distinct
      rw [served, show (p.emit (.jobDropped id)).free = 0 from full,
        show (p.emit (.jobDropped id)).fresh ids = p.fresh ids from rfl] at after
      rw [show (p.emit (.jobDropped id)).free = 0 from full] at count
      rw [served, fresh_cons_of_notMem untracked, full]
      exact ⟨after.trans (by simp [emit]), by simpa [acceptedCount] using count⟩

private theorem length_enqueueAll (p : Pool) (ids : List Uuid) :
    (p.enqueueAll ids).1.length = ids.length := by
  induction ids generalizing p with
  | nil => rfl
  | cons id ids ih => exact congrArg (· + 1) (ih _)

/-- A pool with room for new meetings accepts them all. -/
theorem enqueueAll_of_room (isOpen : p.isOpen = true) (distinct : ids.Nodup)
    (untracked : ∀ id ∈ ids, id ∉ p.tracked)
    (room : p.buffer.length + ids.length ≤ p.settings.bufferSize) :
    p.enqueueAll ids = (List.replicate ids.length .enqueued,
      { p with buffer := p.buffer ++ ids, tracked := ids.reverse ++ p.tracked }) := by
  obtain ⟨after, count⟩ := enqueueAll_of_open isOpen distinct
  have all : p.fresh ids = ids :=
    List.filter_eq_self.mpr fun id hid => decide_eq_true (untracked id hid)
  have enough : ids.length ≤ p.free := by
    rw [free]
    omega
  rw [served, all, List.take_of_length_le enough, List.drop_of_length_le enough] at after
  rw [all, Nat.min_eq_left enough, acceptedCount] at count
  have length := p.length_enqueueAll ids
  refine Prod.ext (List.eq_replicate_iff.mpr ⟨length, fun outcome mem => ?_⟩) ?_
  · exact (List.count_eq_length.mp (count.trans length.symm) outcome mem).symm
  · exact after.trans (by simp)

/-- What a new pool makes of the queued meetings of a store: all are accepted, each once, the oldest
first, and no other. -/
structure TakesUp (s : Store) (p q : Pool) (ids : List Uuid) (outcomes : List EnqueueOutcome) :
    Prop where
  queued : ∀ id, id ∈ ids ↔ s.statusOf? id = some .queued
  distinct : ids.Nodup
  ages : s.Ages ids
  accepted : outcomes = List.replicate ids.length .enqueued
  after : q = { p with buffer := ids, tracked := ids.reverse }

theorem run_pending {b : Backend} (faultless : b.faults = []) (provider : Provider) :
    Attempt.run provider pending b = (.ok (b.store.idsByStatus .queued), b) := by
  change ((b.answer provider (.idsByStatus .queued)).1,
    (b.answer provider (.idsByStatus .queued)).2) = _
  rw [Backend.answer_of_faultless faultless]
  rfl

theorem takesUp_requeue {b : Backend} (faultless : b.faults = []) (settings : Settings)
    (provider : Provider)
    (room : (b.store.idsByStatus .queued).length ≤ settings.clamped.bufferSize) :
    ∃ ids, Attempt.run provider pending b = (.ok ids, b) ∧
      TakesUp b.store (.new settings) ((Pool.new settings).requeue ids).2 ids
        ((Pool.new settings).enqueueAll ids).1 ∧
      ((Pool.new settings).requeue ids).1 = ids.length := by
  have distinct := b.store.nodup_idsByStatus .queued
  have all := enqueueAll_of_room (p := .new settings) rfl distinct (fun _ _ => List.not_mem_nil)
    (by simpa [Pool.new] using room)
  refine ⟨b.store.idsByStatus .queued, ?_, ?_, ?_⟩
  · exact run_pending faultless provider
  · constructor
    case queued => exact fun id => Store.mem_idsByStatus
    case distinct => exact distinct
    case ages => exact b.store.ages_idsByStatus .queued
    case accepted => rw [all]
    case after =>
      simp only [requeue, all]
      simp [Pool.new]
  · simp only [requeue, all, acceptedCount]
    simp

end Pool

end MeetingInsights
