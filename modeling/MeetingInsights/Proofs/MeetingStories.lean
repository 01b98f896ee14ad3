import MeetingInsights.Proofs.JobsUnderWay
import MeetingInsights.Proofs.PoolTracking

/-! # The story of a meeting in a pool

A pool over a backend that disturbs nothing puts each meeting before the provider once at most. The
story of a meeting has four chapters: nothing has been asked about it, its job has asked, a job that
has asked is over, or the provider has crashed under it. Every change of the pool goes on with the
story or does not concern the meeting.
-/

namespace MeetingInsights.Pool

/-- What others may do to the backend beside a pool: they disturb nothing, ask nothing, leave the
evidence and the statuses of stored meetings alone and lose no opportunity. Other meetings may
appear, and time may pass. -/
structure Bystanding (b b' : Backend) : Prop where
  faultless : b'.faults = []
  questions : b'.consultations = b.consultations
  evidence : b'.store.evidence = b.store.evidence
  opportunities : (b.store.opportunities.map OpportunityRecord.id).Sublist
    (b'.store.opportunities.map OpportunityRecord.id)
  statuses : ∀ id s, b.store.statusOf? id = some s → b'.store.statusOf? id = some s

/-- A worker that is at the job of a meeting, or has crashed at it. -/
def Phase.Concerns (id : Uuid) : Phase → Prop
  | .working i _ | .crashed i => i = id
  | _ => False

def Phase.pending? : Phase → Option Event
  | .finished id o | .reporting id o => some (.ofOutcome id o)
  | _ => none

/-- A pool has told an event, or is going to. -/
def Tells (p : Pool) (e : Event) : Prop :=
  e ∈ p.events ∨ ∃ φ ∈ p.workers, φ.pending? = some e

variable {p : Pool} {v : Nat} {φ : Phase}

theorem getElem?_set (h : p.workers[v]? = some φ) (ψ : Phase) (u : Nat) :
    (p.workers.set v ψ)[u]? = if u = v then some ψ else p.workers[u]? := by
  by_cases huv : u = v
  · subst huv
    obtain ⟨hv, _⟩ := List.getElem?_eq_some_iff.mp h
    rw [if_pos rfl, List.getElem?_set_self hv]
  · rw [if_neg huv, List.getElem?_set_ne (Ne.symm huv)]

private theorem concerns_set {id : Uuid} {ψ : Phase} (h : p.workers[v]? = some φ)
    (hφ : ¬ φ.Concerns id) (hψ : ¬ ψ.Concerns id) (u : Nat) (χ : Phase) (hχ : χ.Concerns id) :
    (p.workers.set v ψ)[u]? = some χ ↔ p.workers[u]? = some χ := by
  rw [getElem?_set h]
  split
  · rename_i huv
    subst huv
    constructor
    · intro he
      cases he
      exact (hψ hχ).elim
    · intro he
      rw [h] at he
      cases he
      exact (hφ hχ).elim
  · exact Iff.rfl

theorem tells_moved {ψ : Phase} {events : List Event} {e : Event}
    (h : (p.moved v ψ events).Tells e) : p.Tells e ∨ e ∈ events ∨ ψ.pending? = some e := by
  rcases h with he | ⟨χ, hχ, he⟩
  · rcases List.mem_append.mp he with he | he
    · exact .inl (.inl he)
    · exact .inr (.inl he)
  · rcases List.mem_or_eq_of_mem_set hχ with hχ | rfl
    · exact .inl (.inr ⟨χ, hχ, he⟩)
    · exact .inr (.inr he)

theorem tells_of_silent {ψ : Phase} {e : Event} (h : (p.moved v ψ []).Tells e)
    (silent : ψ.pending? = none) : p.Tells e := by
  rcases tells_moved h with he | he | he
  · exact he
  · cases he
  · rw [silent] at he
    cases he

/-- What happens between two worlds does not concern a meeting. -/
structure Apart (id : Uuid) (w w' : World) : Prop where
  questions : (w'.backend.questionsAbout id).length = (w.backend.questionsAbout id).length
  statuses : ∀ s, w.backend.store.statusOf? id = some s → w'.backend.store.statusOf? id = some s
  phases : ∀ (u : Nat) (χ : Phase), χ.Concerns id → (w'.pool.workers[u]? = some χ ↔ w.pool.workers[u]? = some χ)
  tells : ∀ c e, w'.pool.Tells (.jobCompleted id c e) → w.pool.Tells (.jobCompleted id c e)

theorem Apart.of_same {id : Uuid} {w w' : World} (backend : w'.backend = w.backend)
    (workers : w'.pool.workers = w.pool.workers) (events : w'.pool.events = w.pool.events) :
    Apart id w w' where
  questions := by rw [backend]
  statuses s hs := by rw [backend, hs]
  phases u χ _ := by rw [workers]
  tells c e h := by
    rw [Tells, workers, events] at h
    exact h

theorem apart_spawn (id : Uuid) (w : World) (start : StartCall) :
    Apart id w { w with pool := w.pool.spawn, start := start } where
  questions := rfl
  statuses _ hs := hs
  phases u χ hχ := by
    change (w.pool.workers ++ List.replicate _ _)[u]? = _ ↔ _
    rw [List.getElem?_append]
    split
    · exact Iff.rfl
    · rename_i hu
      rw [List.getElem?_eq_none (Nat.le_of_not_lt hu)]
      constructor
      · intro he
        rw [List.eq_of_mem_replicate (List.mem_of_getElem? he)] at hχ
        exact hχ.elim
      · intro he
        cases he
  tells c e h := by
    rcases h with he | ⟨χ, hχ, he⟩
    · exact .inl he
    · rcases List.mem_append.mp hχ with hχ | hχ
      · exact .inr ⟨χ, hχ, he⟩
      · rw [List.eq_of_mem_replicate hχ] at he
        cases he

theorem apart_moved {id : Uuid} {w w' : World} {ψ : Phase} {events : List Event}
    (h : w.pool.workers[v]? = some φ) (hφ : ¬ φ.Concerns id) (hψ : ¬ ψ.Concerns id)
    (workers : w'.pool.workers = (w.pool.moved v ψ events).workers)
    (told : w'.pool.events = (w.pool.moved v ψ events).events)
    (questions : (w'.backend.questionsAbout id).length = (w.backend.questionsAbout id).length)
    (statuses : ∀ s, w.backend.store.statusOf? id = some s →
      w'.backend.store.statusOf? id = some s)
    (silent : ∀ c e, .jobCompleted id c e ∈ events ∨ ψ.pending? = some (.jobCompleted id c e) →
      w.pool.Tells (.jobCompleted id c e)) :
    Apart id w w' where
  questions := questions
  statuses := statuses
  phases u χ hχ := by
    rw [workers]
    exact concerns_set h hφ hψ u χ hχ
  tells c e he := by
    rw [Tells, workers, told] at he
    rcases tells_moved he with he | he
    · exact he
    · exact silent c e he

def Quiet (xs : List Exchange) : Prop := ∀ x ∈ xs, x.call.IsPlain

theorem Quiet.snoc {xs : List Exchange} (h : Quiet xs) {c : Call} (hc : c.IsPlain) (r : c.Answer) :
    Quiet (xs ++ [⟨c, r⟩]) :=
  List.forall_mem_append.mpr ⟨h, List.forall_mem_singleton.mpr hc⟩

/-- The stored status of a meeting is terminal. -/
def IsClosed (b : Backend) (id : Uuid) : Prop :=
  ∃ s, b.store.statusOf? id = some s ∧ s.isTerminal = true

/-- The story of a meeting in a world, after all that its jobs have exchanged. At its beginning there
were `n` questions about it. -/
inductive Story (id : Uuid) (n : Nat) (w : World) (xs : List Exchange) : Prop where
  /-- Nothing has been asked about it. -/
  | unasked (never : (w.backend.questionsAbout id).length = n) (quiet : Quiet xs)
      (jobs : ∀ (u : Nat) q, w.pool.workers[u]? = some (.working id q) →
        ∃ before job, xs = before ++ job ∧ Job.UnderWay w.backend id job q)
      (whole : ∀ u : Nat, w.pool.workers[u]? ≠ some (.crashed id))
      (untold : ∀ c e, ¬ w.pool.Tells (.jobCompleted id c e))
  /-- A job of it has asked and is under way. -/
  | asking {u : Nat} {q before job} (once : (w.backend.questionsAbout id).length = n + 1)
      (split : xs = before ++ job) (quiet : Quiet before)
      (stands : w.pool.workers[u]? = some (.working id q))
      (underWay : Job.UnderWay w.backend id job q) (asked : questionsAsked job ≠ [])
      (closed : ∀ o, q = .done o → IsClosed w.backend id)
      (untold : ∀ c e, ¬ w.pool.Tells (.jobCompleted id c e))
  /-- The job that has asked is over, and all others of it are refused. -/
  | asked {before job after o} (once : (w.backend.questionsAbout id).length = n + 1)
      (split : xs = before ++ (job ++ after)) (quiet : Quiet before) (still : Quiet after)
      (takes : (Job.process id).Takes job (some o)) (closed : IsClosed w.backend id)
      (jobs : ∀ (u : Nat) q, w.pool.workers[u]? = some (.working id q) →
        q = Job.process id ∨ q = .done .skipped)
      (whole : ∀ u : Nat, w.pool.workers[u]? ≠ some (.crashed id))
      (told : ∀ c e, w.pool.Tells (.jobCompleted id c e) →
        Event.ofOutcome id o = .jobCompleted id c e)
  /-- The provider has crashed under a job of it, whose worker holds it for ever. -/
  | crashed {u : Nat} (once : (w.backend.questionsAbout id).length = n + 1) (quiet : Quiet xs)
      (stands : w.pool.workers[u]? = some (.crashed id))
      (untold : ∀ c e, ¬ w.pool.Tells (.jobCompleted id c e))

variable {id : Uuid} {n : Nat} {w w' : World} {xs : List Exchange}

theorem IsClosed.keep {b b' : Backend} (h : IsClosed b id)
    (statuses : ∀ s, b.store.statusOf? id = some s → b'.store.statusOf? id = some s) :
    IsClosed b' id := by
  obtain ⟨s, hs, hterm⟩ := h
  exact ⟨s, statuses s hs, hterm⟩

/-- What does not concern a meeting does not go on with its story. -/
theorem Story.frame (h : Story id n w xs) (apart : Apart id w w') : Story id n w' xs := by
  have working : ∀ (v : Nat) q, w'.pool.workers[v]? = some (.working id q) ↔
      w.pool.workers[v]? = some (.working id q) := fun v q => apart.phases v _ rfl
  have crashed : ∀ v : Nat, w'.pool.workers[v]? = some (.crashed id) ↔
      w.pool.workers[v]? = some (.crashed id) := fun v => apart.phases v _ rfl
  have mono : ∀ {job q}, Job.UnderWay w.backend id job q → Job.UnderWay w'.backend id job q :=
    fun underWay => underWay.mono fun s hs => ⟨s, apart.statuses s hs⟩
  cases h with
  | unasked never quiet jobs whole untold =>
    refine .unasked (apart.questions.trans never) quiet (fun v q hv => ?_)
      (fun v hv => whole v ((crashed v).mp hv)) (fun c e he => untold c e (apart.tells c e he))
    obtain ⟨before, job, split, underWay⟩ := jobs v q ((working v q).mp hv)
    exact ⟨before, job, split, mono underWay⟩
  | asking once split quiet stands underWay asked closed untold =>
    exact .asking (apart.questions.trans once) split quiet ((working _ _).mpr stands)
      (mono underWay) asked (fun o ho => (closed o ho).keep apart.statuses)
      (fun c e he => untold c e (apart.tells c e he))
  | asked once split quiet still takes closed jobs whole told =>
    exact .asked (apart.questions.trans once) split quiet still takes (closed.keep apart.statuses)
      (fun v q hv => jobs v q ((working v q).mp hv)) (fun v hv => whole v ((crashed v).mp hv))
      (fun c e he => told c e (apart.tells c e he))
  | crashed once quiet stands untold =>
    exact .crashed (apart.questions.trans once) quiet ((crashed _).mpr stands)
      (fun c e he => untold c e (apart.tells c e he))

private theorem set_cases {ψ χ : Phase} {u : Nat} (h : p.workers[v]? = some φ)
    (hu : (p.workers.set v ψ)[u]? = some χ) :
    (u = v ∧ χ = ψ) ∨ (u ≠ v ∧ p.workers[u]? = some χ) := by
  rw [getElem?_set h] at hu
  split at hu
  · exact .inl ⟨by assumption, (Option.some.inj hu).symm⟩
  · exact .inr ⟨by assumption, hu⟩

theorem Tracking.only (h : Tracking p) (hv : p.workers[v]? = some φ) (hφ : φ.held? = some id)
    {u : Nat} {χ : Phase} (hu : p.workers[u]? = some χ) (hχ : χ.held? = some id) :
    u = v ∧ χ = φ := by
  obtain rfl := eq_of_held (List.nodup_append.mp h.distinct).2.1 hu hv hχ hφ
  exact ⟨rfl, Option.some.inj (hu.symm.trans hv)⟩

theorem Tracking.only_set (h : Tracking p) (hv : p.workers[v]? = some φ)
    (hφ : φ.held? = some id) {ψ χ : Phase} {u : Nat} (hu : (p.workers.set v ψ)[u]? = some χ)
    (hχ : χ.held? = some id) : u = v ∧ χ = ψ := by
  rcases set_cases hv hu with same | ⟨hne, hu⟩
  · exact same
  · exact (hne (h.only hv hφ hu hχ).1).elim

theorem Story.start (h : Story id n w xs) (tracking : Tracking w.pool)
    (stands : w.pool.workers[v]? = some (.taken id)) :
    Story id n
      { w with pool := w.pool.moved v (.working id (Job.process id)) [.jobStarted id v] } xs := by
  have untold : ∀ c e, (w.pool.moved v (.working id (Job.process id)) [.jobStarted id v]).Tells
      (.jobCompleted id c e) → w.pool.Tells (.jobCompleted id c e) := by
    intro c e he
    rcases tells_moved he with he | he | he
    · exact he
    · cases List.mem_singleton.mp he
    · cases he
  have now : ∀ (u : Nat) χ, χ.held? = some id →
      (w.pool.workers.set v (.working id (Job.process id)))[u]? = some χ →
      χ = .working id (Job.process id) :=
    fun u χ hχ hu => (tracking.only_set stands rfl hu hχ).2
  have whole : ∀ u : Nat, (w.pool.workers.set v
      (.working id (Job.process id)))[u]? ≠ some (.crashed id) :=
    fun u hu => by cases now u _ rfl hu
  cases h with
  | unasked never quiet _ _ silent =>
    refine .unasked never quiet (fun u q hu => ?_) whole (fun c e he => silent c e (untold c e he))
    cases now u _ rfl hu
    exact ⟨xs, [], by simp, Job.underWay_process _ _⟩
  | asking _ _ _ stands' => cases (tracking.only stands rfl stands' rfl).2
  | asked once split quiet still takes closed _ _ told =>
    refine .asked once split quiet still takes closed (fun u q hu => ?_) whole
      (fun c e he => told c e (untold c e he))
    cases now u _ rfl hu
    exact .inl rfl
  | crashed _ _ stands' => cases (tracking.only stands rfl stands' rfl).2

theorem Story.conclude (h : Story id n w xs) (tracking : Tracking w.pool) {o : Job.Outcome}
    (stands : w.pool.workers[v]? = some (.working id (.done o))) :
    Story id n { w with pool := w.pool.moved v (.finished id o) [] } xs := by
  have told : ∀ c e, (w.pool.moved v (.finished id o) []).Tells (.jobCompleted id c e) →
      w.pool.Tells (.jobCompleted id c e) ∨ Event.ofOutcome id o = .jobCompleted id c e := by
    intro c e he
    rcases tells_moved he with he | he | he
    · exact .inl he
    · cases he
    · exact .inr (Option.some.inj he)
  have now : ∀ (u : Nat) χ, χ.held? = some id →
      (w.pool.workers.set v (.finished id o))[u]? = some χ → χ = .finished id o :=
    fun u χ hχ hu => (tracking.only_set stands rfl hu hχ).2
  have jobs : ∀ (u : Nat) q, (w.pool.workers.set v (.finished id o))[u]? ≠
      some (.working id q) := fun u q hu => by cases now u _ rfl hu
  have whole : ∀ u : Nat, (w.pool.workers.set v (.finished id o))[u]? ≠
      some (.crashed id) := fun u hu => by cases now u _ rfl hu
  cases h with
  | unasked never quiet underWay _ silent =>
    refine .unasked never quiet (fun u q hu => (jobs u q hu).elim) whole (fun c e he => ?_)
    obtain ⟨before, job, rfl, underWay⟩ := underWay v _ stands
    rcases told c e he with he | he
    · exact silent c e he
    · cases o with
      | failed | skipped => cases he
      | done s =>
        obtain ⟨findings, given, _⟩ := (Job.course_of_takes underWay.takes).recorded_of_done
        have plain := (List.forall_mem_append.mp quiet).2
        rw [(nothing_of_isPlain plain).2.1] at given
        cases given
  | asking once split quiet stands' underWay asked closed silent =>
    obtain ⟨rfl, he⟩ := tracking.only stands rfl stands' rfl
    cases he
    refine .asked once (by rw [List.append_nil, split]) quiet
      (List.forall_mem_nil fun x : Exchange => x.call.IsPlain) underWay.takes (closed o rfl)
      (fun u q hu => (jobs u q hu).elim) whole (fun c e he => ?_)
    exact (told c e he).resolve_left (silent c e)
  | asked once split quiet still takes closed ended _ told' =>
    refine .asked once split quiet still takes closed (fun u q hu => (jobs u q hu).elim) whole
      (fun c e he => ?_)
    rcases told c e he with he | he
    · exact told' c e he
    · rcases ended v _ stands with hq | hq
      · cases hq
      · cases hq
        cases he
  | crashed _ _ stands' => cases (tracking.only stands rfl stands' rfl).2

theorem length_questionsAbout_answer {b : Backend} (hb : b.faults = []) (provider : Provider)
    (c : Call) (id : Uuid) :
    ((∀ m roster, c ≠ .extract m roster) → ((b.answer provider c).2.questionsAbout id).length =
      (b.questionsAbout id).length) ∧
    ∀ m roster, c = .extract m roster → ((b.answer provider c).2.questionsAbout id).length =
      (b.questionsAbout id).length + if m.id = id then 1 else 0 := by
  rw [Backend.answer_of_faultless hb]
  have grows := congrArg List.length ((Backend.grows_perform b provider c).questionsAbout id)
  rw [List.length_append, List.length_map, List.length_map] at grows
  constructor
  · intro hc
    cases c <;> first | exact grows | exact (hc _ _ rfl).elim
  · rintro m roster rfl
    rw [grows]
    by_cases hm : m.id = id <;> simp [Exchange.question?, hm]

theorem ne_extract_of_isPlain {c : Call} (h : c.IsPlain) (m : Meeting) (roster : List RosterEntry) :
    c ≠ .extract m roster := by
  rintro rfl
  exact h

/-- The world after the answer to the call that a worker's job makes next. -/
def World.answered (w : World) (v : Nat) (id : Uuid) {c : Call}
    (next : c.Answer → Program Job.Outcome) (provider : Provider) : World :=
  { w with
    pool := w.pool.moved v (.working id (next (w.backend.answer provider c).1)) []
    backend := (w.backend.answer provider c).2 }

section Answer

variable {c : Call} {next : c.Answer → Program Job.Outcome} {provider : Provider}
  {before job after : List Exchange} {o : Job.Outcome}

theorem tells_answered {e : Event} (h : (w.answered v id next provider).pool.Tells e) :
    w.pool.Tells e := tells_of_silent h rfl

theorem working_answered (stands : w.pool.workers[v]? = some (.working id (.call c next))) :
    (w.answered v id next provider).pool.workers[v]? =
      some (.working id (next (w.backend.answer provider c).1)) := by
  change (w.pool.workers.set v _)[v]? = _
  rw [getElem?_set stands, if_pos rfl]

theorem Tracking.only_answered (tracking : Tracking w.pool)
    (stands : w.pool.workers[v]? = some (.working id (.call c next))) {u : Nat} {χ : Phase}
    (hu : (w.answered v id next provider).pool.workers[u]? = some χ) (hχ : χ.held? = some id) :
    χ = .working id (next (w.backend.answer provider c).1) :=
  (tracking.only_set stands rfl hu hχ).2

theorem Tracking.not_crashed_answered (tracking : Tracking w.pool)
    (stands : w.pool.workers[v]? = some (.working id (.call c next))) (u : Nat) :
    (w.answered v id next provider).pool.workers[u]? ≠ some (.crashed id) :=
  fun hu => by cases tracking.only_answered stands hu rfl

/-- Nothing has been asked about the meeting, and the call that is answered is no question. -/
theorem Story.answer_plain (tracking : Tracking w.pool) (hb : w.backend.faults = [])
    (stands : w.pool.workers[v]? = some (.working id (.call c next))) (plain : c.IsPlain)
    (never : (w.backend.questionsAbout id).length = n) (quiet : Quiet (before ++ job))
    (underWay : Job.UnderWay w.backend id job (.call c next))
    (silent : ∀ c e, ¬ w.pool.Tells (.jobCompleted id c e)) :
    Story id n (w.answered v id next provider)
      (before ++ job ++ [⟨c, (w.backend.answer provider c).1⟩]) := by
  have same := (length_questionsAbout_answer hb provider c id).1 (ne_extract_of_isPlain plain)
  refine .unasked (same.trans never) (quiet.snoc plain _) (fun u q hu => ?_)
    (tracking.not_crashed_answered stands) (fun c e he => silent c e (tells_answered he))
  cases tracking.only_answered stands hu rfl
  exact ⟨before, _, by rw [List.append_assoc], underWay.answer hb provider⟩

/-- Nothing has been asked about the meeting before its job asks now. -/
theorem Story.answer_question {m : Meeting} {roster : List RosterEntry}
    {next : (Call.extract m roster).Answer → Program Job.Outcome} (hb : w.backend.faults = [])
    (stands : w.pool.workers[v]? = some (.working id (.call (.extract m roster) next)))
    (never : (w.backend.questionsAbout id).length = n) (quiet : Quiet before)
    (underWay : Job.UnderWay w.backend id job (.call (.extract m roster) next))
    (silent : ∀ c e, ¬ w.pool.Tells (.jobCompleted id c e)) :
    Story id n (w.answered v id next provider)
      (before ++ job ++ [⟨.extract m roster, (w.backend.answer provider (.extract m roster)).1⟩]) := by
  have once := (length_questionsAbout_answer hb provider (.extract m roster) id).2 m roster rfl
  rw [never, if_pos underWay.id_of_extract.2] at once
  have asked : questionsAsked (job ++ [⟨.extract m roster,
      (w.backend.answer provider (.extract m roster)).1⟩]) ≠ [] := by
    simp [questionsAsked, Exchange.question?]
  exact .asking once (List.append_assoc _ _ _) quiet (working_answered stands)
    (underWay.answer hb provider) asked (fun o ho => underWay.terminal hb asked ho)
    (fun c e he => silent c e (tells_answered he))

/-- The job that has asked goes on, and asks no more. -/
theorem Story.answer_asking (hb : w.backend.faults = [])
    (stands : w.pool.workers[v]? = some (.working id (.call c next)))
    (once : (w.backend.questionsAbout id).length = n + 1) (quiet : Quiet before)
    (underWay : Job.UnderWay w.backend id job (.call c next)) (asked : questionsAsked job ≠ [])
    (silent : ∀ c e, ¬ w.pool.Tells (.jobCompleted id c e)) :
    Story id n (w.answered v id next provider)
      (before ++ job ++ [⟨c, (w.backend.answer provider c).1⟩]) := by
  have stillAsked : questionsAsked (job ++ [⟨c, (w.backend.answer provider c).1⟩]) ≠ [] := by
    rw [questionsAsked_append]
    exact List.append_ne_nil_of_left_ne_nil asked _
  rcases Job.asks_next underWay.leaves with ⟨_, hc⟩ | ⟨plain, _⟩
  · have same := (length_questionsAbout_answer hb provider c id).1 hc
    exact .asking (same.trans once) (List.append_assoc _ _ _) quiet (working_answered stands)
      (underWay.answer hb provider) stillAsked (fun o ho => underWay.terminal hb stillAsked ho)
      (fun c e he => silent c e (tells_answered he))
  · exact (asked (nothing_of_isPlain plain).1).elim

/-- The job that has asked is over. The meeting is terminal, so what is answered is the beginning of
another job, which is refused. -/
theorem Story.answer_asked (tracking : Tracking w.pool) (hb : w.backend.faults = [])
    (stands : w.pool.workers[v]? = some (.working id (.call c next)))
    (first : .call c next = Job.process id)
    (once : (w.backend.questionsAbout id).length = n + 1) (quiet : Quiet before)
    (still : Quiet after) (takes : (Job.process id).Takes job (some o))
    (closed : IsClosed w.backend id)
    (told : ∀ c e, w.pool.Tells (.jobCompleted id c e) →
      Event.ofOutcome id o = .jobCompleted id c e) :
    Story id n (w.answered v id next provider)
      (before ++ (job ++ after) ++ [⟨c, (w.backend.answer provider c).1⟩]) := by
  obtain ⟨s, hs, hterm⟩ := closed
  obtain ⟨plain, hnext, hsame⟩ := Job.answer_process_of_terminal hb hs hterm provider first
  have same := (length_questionsAbout_answer hb provider c id).1 (ne_extract_of_isPlain plain)
  have stays : (w.answered v id next provider).backend.store.statusOf? id = some s :=
    (congrArg (fun b : Backend => b.store.statusOf? id) hsame).trans hs
  refine .asked (same.trans once) (by simp only [List.append_assoc]) quiet
    (still.snoc plain (w.backend.answer provider c).1) takes ⟨s, stays, hterm⟩ (fun u q hu => ?_)
    (tracking.not_crashed_answered stands) (fun c e he => told c e (tells_answered he))
  cases tracking.only_answered stands hu rfl
  exact .inr hnext

theorem Story.answer (h : Story id n w xs) (tracking : Tracking w.pool)
    (hb : w.backend.faults = []) (provider : Provider)
    (stands : w.pool.workers[v]? = some (.working id (.call c next))) :
    Story id n (w.answered v id next provider)
      (xs ++ [⟨c, (w.backend.answer provider c).1⟩]) := by
  cases h with
  | unasked never quiet jobs _ silent =>
    obtain ⟨before, job, rfl, underWay⟩ := jobs v _ stands
    obtain ⟨quietBefore, quietJob⟩ := List.forall_mem_append.mp quiet
    rcases Job.asks_next underWay.leaves with ⟨asked, _⟩ | ⟨_, plain | ⟨m, roster, rfl, _⟩⟩
    · exact (asked (nothing_of_isPlain quietJob).1).elim
    · exact .answer_plain tracking hb stands plain never quiet underWay silent
    · exact .answer_question hb stands never quietBefore underWay silent
  | asking once split quiet stands' underWay asked _ silent =>
    obtain ⟨rfl, he⟩ := tracking.only stands rfl stands' rfl
    cases he
    subst split
    exact .answer_asking hb stands once quiet underWay asked silent
  | asked once split quiet still takes closed jobs _ told =>
    have first : .call c next = Job.process id := (jobs v _ stands).resolve_right (by simp)
    subst split
    exact .answer_asked tracking hb stands first once quiet still takes closed told
  | crashed _ _ stands' => cases (tracking.only stands rfl stands' rfl).2

end Answer

theorem Story.crash (h : Story id n w xs) (tracking : Tracking w.pool) {m : Meeting}
    {roster : List RosterEntry} {next : (Call.extract m roster).Answer → Program Job.Outcome}
    (stands : w.pool.workers[v]? = some (.working id (.call (.extract m roster) next))) :
    Story id n
      { w with
        pool := w.pool.moved v (.crashed id) []
        backend := { w.backend with consultations := w.backend.consultations ++ [⟨m, roster⟩] } }
      xs := by
  have untold : ∀ c e, (w.pool.moved v (.crashed id) []).Tells (.jobCompleted id c e) →
      w.pool.Tells (.jobCompleted id c e) := fun c e he => tells_of_silent he rfl
  have here : (w.pool.workers.set v (.crashed id))[v]? = some (.crashed id) := by
    rw [getElem?_set stands, if_pos rfl]
  cases h with
  | unasked never quiet jobs _ silent =>
    obtain ⟨before, job, rfl, underWay⟩ := jobs v _ stands
    refine .crashed ?_ quiet here (fun c e he => silent c e (untold c e he))
    simpa [Backend.questionsAbout, underWay.id_of_extract.2] using never
  | asking once split quiet stands' underWay asked =>
    obtain ⟨rfl, he⟩ := tracking.only stands rfl stands' rfl
    cases he
    exact (asked (nothing_of_isPlain underWay.id_of_extract.1).1).elim
  | asked once split quiet still takes closed jobs =>
    rcases jobs v _ stands with hq | hq <;> cases hq
  | crashed _ _ stands' => cases (tracking.only stands rfl stands' rfl).2

structure Calm (w : World) : Prop where
  faultless : w.backend.faults = []
  jobs : ∀ (u : Nat) i q, w.pool.workers[u]? = some (.working i q) →
    ∃ job, Job.UnderWay w.backend i job q

theorem Calm.set (h : Calm w) (stands : w.pool.workers[v]? = some φ) {ψ : Phase}
    (workers : w'.pool.workers = w.pool.workers.set v ψ) (faultless : w'.backend.faults = [])
    (stored : ∀ j s, w.backend.store.statusOf? j = some s →
      ∃ t, w'.backend.store.statusOf? j = some t)
    (job : ∀ i q, ψ = .working i q → ∃ job, Job.UnderWay w'.backend i job q) : Calm w' where
  faultless := faultless
  jobs u i q hu := by
    rw [workers] at hu
    rcases set_cases stands hu with ⟨_, he⟩ | ⟨_, hu⟩
    · exact job i q he.symm
    · obtain ⟨job, underWay⟩ := h.jobs u i q hu
      exact ⟨job, underWay.mono (stored i)⟩

theorem Calm.same (h : Calm w) (workers : w'.pool.workers = w.pool.workers)
    (backend : w'.backend = w.backend) : Calm w' where
  faultless := by rw [backend, h.faultless]
  jobs u i q hu := by
    rw [workers] at hu
    rw [backend]
    exact h.jobs u i q hu

theorem faults_answer {b : Backend} (hb : b.faults = []) (provider : Provider) (c : Call) :
    (b.answer provider c).2.faults = [] := by
  rw [Backend.answer_of_faultless hb, Backend.faults_perform, hb]

theorem calm_change {d : Option (Uuid × Exchange)} (h : Calm w) (hc : Change Bystanding w w' d) :
    Calm w' := by
  have kept : ∀ j s, w.backend.store.statusOf? j = some s →
      ∃ t, w.backend.store.statusOf? j = some t := fun _ s hs => ⟨s, hs⟩
  cases hc with
  | still same => exact h.same same.workers rfl
  | mark | test | accept | drop => exact h.same rfl rfl
  | spawn cleared =>
    refine ⟨h.faultless, fun u i q hu => h.jobs u i q ?_⟩
    have concerns : (Phase.working i q).Concerns i := rfl
    exact ((apart_spawn i w .absent).phases u _ concerns).mp hu
  | move stands moves =>
    refine h.set stands rfl h.faultless kept fun i q he => ?_
    cases moves with
    | start =>
      cases he
      exact ⟨[], Job.underWay_process _ _⟩
    | announce | withdraw | conclude | report | leave => cases he
  | take stands head => exact h.set stands rfl h.faultless kept fun i q he => by cases he
  | answer provider stands =>
    obtain ⟨job, underWay⟩ := h.jobs _ _ _ stands
    refine h.set stands rfl (faults_answer h.faultless provider _) (underWay.statuses provider).2
      fun i q he => ?_
    cases he
    exact ⟨_, underWay.answer h.faultless provider⟩
  | crash stands => exact h.set stands rfl h.faultless kept fun i q he => by cases he
  | untrack stands => exact h.set stands rfl h.faultless kept fun i q he => by cases he
  | elsewhere admitted =>
    refine ⟨admitted.faultless, fun u i q hu => ?_⟩
    obtain ⟨job, underWay⟩ := h.jobs u i q hu
    exact ⟨job, underWay.mono fun s hs => ⟨s, admitted.statuses i s hs⟩⟩

theorem Story.move (h : Story id n w xs) (tracking : Tracking w.pool) {ψ : Phase}
    {events : List Event} (stands : w.pool.workers[v]? = some φ) (moves : Moves v φ ψ events) :
    Story id n { w with pool := w.pool.moved v ψ events } xs := by
  have aside : ∀ {ψ}, ¬ φ.Concerns id → ¬ ψ.Concerns id → ∀ {events},
      (∀ c e, .jobCompleted id c e ∈ events ∨ ψ.pending? = some (.jobCompleted id c e) →
        w.pool.Tells (.jobCompleted id c e)) →
      Story id n { w with pool := w.pool.moved v ψ events } xs := by
    intro ψ hφ hψ events silent
    exact h.frame (apart_moved stands hφ hψ rfl rfl rfl (fun _ hs => hs) silent)
  cases moves with
  | announce | withdraw | leave =>
    refine aside ?_ ?_ ?_
    · exact fun he => he
    · exact fun he => he
    · simp [Phase.pending?]
  | @start i =>
    by_cases hi : i = id
    · subst hi
      exact h.start tracking stands
    · refine aside ?_ ?_ ?_
      · exact fun he => he
      · exact fun he => hi he
      · simp [Phase.pending?]
  | @conclude i o =>
    by_cases hi : i = id
    · subst hi
      exact h.conclude tracking stands
    · refine aside ?_ ?_ ?_
      · exact fun he => hi he
      · exact fun he => he
      · rintro c e (he | he)
        · cases he
        · cases o with
          | done s =>
            cases he
            exact (hi rfl).elim
          | failed | skipped => cases he
  | report =>
    refine aside ?_ ?_ ?_
    · exact fun he => he
    · exact fun he => he
    · rintro c e (he | he)
      · rw [List.mem_singleton.mp he]
        exact .inr ⟨_, List.mem_of_getElem? stands, rfl⟩
      · cases he

private theorem apart_drop (id i : Uuid) (w : World) :
    Apart id w { w with pool := w.pool.emit (.jobDropped i) } where
  questions := rfl
  statuses _ hs := hs
  phases _ _ _ := Iff.rfl
  tells c e he := by
    rcases he with he | he
    · rcases List.mem_append.mp he with he | he
      · exact .inl he
      · cases List.mem_singleton.mp he
    · exact .inr he

private theorem apart_take (id : Uuid) (idle : w.pool.workers[v]? = some .idle) (i : Uuid)
    (rest : List Uuid) :
    Apart id w { w with pool := { w.pool.moved v (.taken i) [] with buffer := rest } } := by
  have taken : ¬ (Phase.taken i).Concerns id := fun he => he
  exact apart_moved idle (fun he => he) taken rfl rfl rfl (fun _ hs => hs)
    (by simp [Phase.pending?])

private theorem apart_untrack (id : Uuid) {i : Uuid} {o : Job.Outcome}
    (stands : w.pool.workers[v]? = some (.finished i o)) (tracked : List Uuid) :
    Apart id w { w with pool := { w.pool.moved v (.reporting i o) [] with tracked } } := by
  have reporting : ¬ (Phase.reporting i o).Concerns id := fun he => he
  refine apart_moved stands (fun he => he) reporting rfl rfl rfl (fun _ hs => hs) ?_
  rintro c e (he | he)
  · cases he
  · exact .inr ⟨_, List.mem_of_getElem? stands, he⟩

private theorem Calm.apart_answered (calm : Calm w) {i : Uuid} (hi : i ≠ id) {c : Call}
    {next : c.Answer → Program Job.Outcome} (provider : Provider)
    (stands : w.pool.workers[v]? = some (.working i (.call c next))) :
    Apart id w (w.answered v i next provider) := by
  obtain ⟨job, underWay⟩ := calm.jobs _ _ _ stands
  have other : ∀ q, ¬ (Phase.working i q).Concerns id := fun q he => hi he
  refine apart_moved stands (other _) (other _) rfl rfl ?_ (fun s hs => ?_) (by simp [Phase.pending?])
  · obtain ⟨notAsking, asking⟩ := length_questionsAbout_answer calm.faultless provider c id
    by_cases hc : ∃ m roster, c = .extract m roster
    · obtain ⟨m, roster, rfl⟩ := hc
      have hm : m.id ≠ id := underWay.id_of_extract.2 ▸ hi
      exact (asking m roster rfl).trans (by rw [if_neg hm, Nat.add_zero])
    · exact notAsking fun m roster he => hc ⟨m, roster, he⟩
  · exact ((underWay.statuses provider).1 id (Ne.symm hi)).trans hs

private theorem Calm.apart_crash (calm : Calm w) {i : Uuid} (hi : i ≠ id) {m : Meeting}
    {roster : List RosterEntry} {next : (Call.extract m roster).Answer → Program Job.Outcome}
    (stands : w.pool.workers[v]? = some (.working i (.call (.extract m roster) next))) :
    Apart id w
      { w with
        pool := w.pool.moved v (.crashed i) []
        backend := { w.backend with consultations := w.backend.consultations ++ [⟨m, roster⟩] } } := by
  obtain ⟨job, underWay⟩ := calm.jobs _ _ _ stands
  have hm : m.id ≠ id := underWay.id_of_extract.2 ▸ hi
  have crashed : ¬ (Phase.crashed i).Concerns id := fun he => hi he
  refine apart_moved stands (fun he => hi he) crashed rfl rfl ?_ (fun _ hs => hs)
    (by simp [Phase.pending?])
  simp [Backend.questionsAbout, hm]

private theorem apart_elsewhere (id : Uuid) {b : Backend} (admitted : Bystanding w.backend b) :
    Apart id w { w with backend := b } where
  questions := by rw [Backend.questionsAbout, admitted.questions, Backend.questionsAbout]
  statuses := admitted.statuses id
  phases _ _ _ := Iff.rfl
  tells _ _ he := he

/-- Every change goes on with the story of a meeting or does not concern it. -/
theorem Story.change {d : Option (Uuid × Exchange)} (h : Story id n w xs)
    (tracking : Tracking w.pool) (calm : Calm w) (hc : Change Bystanding w w' d) :
    Story id n w' (xs ++ dealing id d) := by
  cases hc with
  | @answer v i c next provider stands =>
    by_cases hi : i = id
    · subst hi
      rw [dealing, if_pos rfl]
      exact h.answer tracking calm.faultless provider stands
    · rw [dealing, if_neg hi, List.append_nil]
      exact h.frame (calm.apart_answered hi provider stands)
  | still same =>
    rw [dealing, List.append_nil]
    exact h.frame (.of_same rfl same.workers same.events)
  | mark | test | accept =>
    rw [dealing, List.append_nil]
    exact h.frame (.of_same rfl rfl rfl)
  | drop =>
    rw [dealing, List.append_nil]
    exact h.frame (apart_drop id _ w)
  | spawn cleared =>
    rw [dealing, List.append_nil]
    exact h.frame (apart_spawn id w .absent)
  | move stands moves =>
    rw [dealing, List.append_nil]
    exact h.move tracking stands moves
  | take stands head =>
    rw [dealing, List.append_nil]
    exact h.frame (apart_take id stands _ _)
  | @crash v i m roster next stands =>
    rw [dealing, List.append_nil]
    by_cases hi : i = id
    · subst hi
      exact h.crash tracking stands
    · exact h.frame (calm.apart_crash hi stands)
  | untrack stands =>
    rw [dealing, List.append_nil]
    exact h.frame (apart_untrack id stands _)
  | elsewhere admitted =>
    rw [dealing, List.append_nil]
    exact h.frame (apart_elsewhere id admitted)

end MeetingInsights.Pool
