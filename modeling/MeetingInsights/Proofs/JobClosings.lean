import MeetingInsights.Proofs.MeetingStories
import MeetingInsights.Proofs.StopSignals

/-! # What the jobs of a pool do to the meetings

A job leaves the records of all meetings but its own alone, and as long as nothing disturbs a pool
each of its jobs ends with its meeting terminal.
-/

namespace MeetingInsights

private theorem Store.find?_updateStatus_of_ne {s t : Store} {id j : Uuid} {status : Status}
    {message : Option String} {now : Timestamp} (h : s.updateStatus id status message now = .ok t)
    (hj : j ≠ id) : t.meetings.find? j = s.meetings.find? j := by
  unfold updateStatus at h
  split at h
  · cases h
  · rename_i m hm
    obtain rfl := MeetingTable.find?_eq_some hm
    split at h
    · cases h
    · cases h
      rw [MeetingTable.find?_replace]
      cases hf : s.meetings.find? j with
      | none => rfl
      | some r =>
        have hr := MeetingTable.find?_eq_some hf
        have other : r.id ≠ m.id := fun same => hj (hr.symm.trans same)
        simp [MeetingTable.replaced, Meeting.withStatus, other]

theorem Backend.find?_answer_of_ne {b : Backend} {provider : Provider} {c : Call} {j : Uuid}
    (hcreate : ∀ draft, c ≠ .createMeeting draft)
    (hupdate : ∀ id status message, c = .updateStatus id status message → j ≠ id) :
    (b.answer provider c).2.store.meetings.find? j = b.store.meetings.find? j := by
  rcases b.answer_cases provider c with ⟨faults, hb, _⟩ | ⟨faults, h⟩
  · rw [hb]
  · rw [h]
    by_cases hc : ∃ id status message, c = .updateStatus id status message
    · obtain ⟨id, status, message, rfl⟩ := hc
      simp only [perform]
      cases hu : b.store.updateStatus id status message b.now with
      | error e => rfl
      | ok t => exact Store.find?_updateStatus_of_ne hu (hupdate id status message rfl)
    · have same : (b.perform provider c).2.store.meetings = b.store.meetings :=
        meetings_perform hcreate fun id status message he => hc ⟨id, status, message, he⟩
      exact congrArg (fun t : MeetingTable => t.find? j) same

namespace Job

variable {id : Uuid} {xs : List Exchange} {c : Call} {next : c.Answer → Program Outcome}
  {b : Backend}

private theorem find?_answer_of_leaves (h : (process id).Leaves xs (.call c next)) {j : Uuid}
    (hj : j ≠ id) (b : Backend) (provider : Provider) :
    (b.answer provider c).2.store.meetings.find? j = b.store.meetings.find? j := by
  refine Backend.find?_answer_of_ne (fun draft hc => ?_) fun i status message hc => ?_
  all_goals
    subst hc
    rcases next_of_leaves h with ⟨_, hc⟩ | ⟨_, _, _, _, follow⟩
  · cases hc
  · exact follow
  · cases hc
    exact hj
  · rw [follow.1]
    exact hj

end Job

namespace Pool

/-- What one backend keeps of another: it disturbs nothing if that does not, and has its meetings,
the terminal ones among them terminal. -/
structure Keeps (b b' : Backend) : Prop where
  faultless : b.faults = [] → b'.faults = []
  stored : ∀ id, (b.store.statusOf? id).isSome → (b'.store.statusOf? id).isSome
  closed : ∀ id, IsClosed b id → IsClosed b' id

theorem Keeps.of_store_eq {b b' : Backend} (faults : b'.faults = b.faults)
    (store : b'.store = b.store) : Keeps b b' where
  faultless := fun h => faults.trans h
  stored id h := by rwa [store]
  closed id h := by rwa [IsClosed, store]

theorem Keeps.answer {b : Backend} {id : Uuid} {xs : List Exchange} {c : Call}
    {next : c.Answer → Program Job.Outcome} (h : (Job.process id).Leaves xs (.call c next))
    (provider : Provider) : Keeps b (b.answer provider c).2 := by
  have isTrue : (⟨id, xs, .call c next⟩ : Job.Ongoing).IsTrue := h
  -- The status of a meeting is as it was, or it was not terminal and is another now.
  have statuses : ∀ j, (b.answer provider c).2.store.statusOf? j = b.store.statusOf? j ∨
      (∃ old, b.store.statusOf? j = some old ∧ old.isTerminal = false) ∧
        ∃ new, (b.answer provider c).2.store.statusOf? j = some new := by
    intro j
    rcases isTrue.moves provider b with ⟨status, moves⟩ | ⟨same, _⟩
    · by_cases hj : j = id
      · subst hj
        exact .inr ⟨moves.old, status, (moves.new j).trans (if_pos rfl)⟩
      · exact .inl ((moves.new j).trans (if_neg hj))
    · exact .inl (same j)
  refine ⟨fun hb => faults_answer hb provider c, fun j stored => ?_, fun j closed => ?_⟩
  · rcases statuses j with same | ⟨_, new, hnew⟩
    · rwa [same]
    · rw [hnew]
      rfl
  · obtain ⟨s, hs, terminal⟩ := closed
    rcases statuses j with same | ⟨⟨old, hold, isOpen⟩, _⟩
    · exact ⟨s, same.trans hs, terminal⟩
    · obtain rfl := Option.some.inj (hs.symm.trans hold)
      rw [terminal] at isOpen
      cases isOpen

private theorem isClosed_of_refusal {b : Backend} {provider : Provider} {id : Uuid}
    (hb : b.faults = []) (stored : (b.store.statusOf? id).isSome)
    (refused : Job.isRefusal (b.answer provider (Job.beginCall id)).1 = true) :
    IsClosed (b.answer provider (Job.beginCall id)).2 id := by
  obtain ⟨s, hs⟩ := Option.isSome_iff_exists.mp stored
  cases hterm : s.isTerminal with
  | true =>
    rw [Job.beginCall, Backend.answer_updateStatus_of_terminal hb hs hterm]
    exact ⟨s, hs, hterm⟩
  | false =>
    have performed : b.answer provider (Job.beginCall id) = b.perform provider (Job.beginCall id) :=
      Backend.answer_of_faultless hb _
    rw [performed] at refused
    simp only [Job.beginCall, Backend.perform] at refused
    cases hu : b.store.updateStatus id .processing none b.now with
    | ok t =>
      rw [hu] at refused
      cases refused
    | error e =>
      rcases Store.updateStatus_eq_error hu with missing | ⟨old, hold, terminal, _⟩
      · rw [hs] at missing
        cases missing
      · obtain rfl := Option.some.inj (hs.symm.trans hold)
        rw [hterm] at terminal
        cases terminal

/-- The last answer to a job whose meeting is stored leaves the meeting terminal. -/
theorem isClosed_of_ended {b : Backend} {provider : Provider} {id : Uuid} {xs : List Exchange}
    {c : Call} {next : c.Answer → Program Job.Outcome} {o : Job.Outcome} (hb : b.faults = [])
    (stored : (b.store.statusOf? id).isSome) (h : (Job.process id).Leaves xs (.call c next))
    (ended : next (b.answer provider c).1 = .done o) : IsClosed (b.answer provider c).2 id := by
  have takes := (h.snoc (b.answer provider c).1).takes
  rw [ended] at takes
  rcases (Job.course_of_takes takes).closes with ⟨_, r, refused, hxs⟩ |
    ⟨ys, status, message, r, hxs, terminal, _⟩
  · obtain ⟨rfl, last⟩ := List.append_inj' (hxs.trans (List.nil_append _).symm) rfl
    obtain ⟨hc, hr⟩ := Exchange.mk.inj (List.singleton_inj.mp last)
    subst hc
    rw [← eq_of_heq hr] at refused
    exact isClosed_of_refusal hb stored refused
  · obtain ⟨_, last⟩ := List.append_inj' hxs rfl
    obtain rfl : c = .updateStatus id status message :=
      congrArg Exchange.call (List.singleton_inj.mp last)
    obtain ⟨s, hs⟩ := Option.isSome_iff_exists.mp stored
    exact Backend.isTerminal_answer_updateStatus hb hs terminal message

/-- What is known of a worker's job over a backend: what is left of it, and that its meeting is
terminal once nothing is left. -/
def Phase.Settles (b : Backend) : Phase → Prop
  | .working id q => (∃ xs, (Job.process id).Leaves xs q) ∧ ∀ o, q = .done o → IsClosed b id
  | .finished id _ | .reporting id _ => IsClosed b id
  | _ => True

theorem Phase.Settles.keep {b b' : Backend} {φ : Phase} (h : φ.Settles b) (keeps : Keeps b b') :
    φ.Settles b' := by
  cases φ with
  | working id q => exact ⟨h.1, fun o ended => keeps.closed id (h.2 o ended)⟩
  | finished id o | reporting id o => exact keeps.closed id h
  | starting | idle | taken | leaving | gone | crashed => trivial

/-- An action that disturbs nothing: the meetings that are offered are stored, and others keep what
is in the backend. -/
def World.Undisturbed (w : World) : Action → Prop
  | .enqueue id => (w.backend.store.statusOf? id).isSome
  | .elsewhere b => Keeps w.backend b
  | _ => True

/-- A world that nothing has disturbed. -/
structure Settling (w : World) : Prop where
  faultless : w.backend.faults = []
  stored : ∀ id ∈ w.pool.buffer ++ w.pool.held, (w.backend.store.statusOf? id).isSome
  jobs : ∀ φ ∈ w.pool.workers, φ.Settles w.backend

variable {w w' : World} {a : Action} {p q : Pool}

theorem settling_opened {settings : Settings} {b : Backend} (hb : b.faults = []) :
    Settling (.opened settings b) := ⟨hb, nofun, nofun⟩

private theorem mem_held_of_set {v : Nat} {ψ : Phase} {id : Uuid}
    (workers : q.workers = p.workers.set v ψ) (h : id ∈ q.held) :
    id ∈ p.held ∨ ψ.held? = some id := by
  obtain ⟨χ, hχ, holds⟩ := List.mem_filterMap.mp h
  rw [workers] at hχ
  rcases List.mem_or_eq_of_mem_set hχ with old | rfl
  · exact .inl (List.mem_filterMap.mpr ⟨χ, old, holds⟩)
  · exact .inr holds

theorem Shifts.held {v : Nat} {φ ψ : Phase} {es : List Event} (h : Shifts a v φ ψ es) {id : Uuid}
    (hψ : ψ.held? = some id) : φ.held? = some id := by
  cases h with
  | start | answer | conclude | crash => exact hψ
  | announce | withdraw | untrack | report | leave => cases hψ

theorem Serves.waiting {accepted dropped dequeued : Option Uuid}
    (h : Serves p a accepted dropped dequeued q) {id : Uuid} (hid : id ∈ q.buffer ++ q.held) :
    id ∈ p.buffer ++ p.held ∨ accepted = some id := by
  have same : q.workers = p.workers → q.held = p.held := congrArg (List.filterMap Phase.held?)
  rw [List.mem_append] at hid
  cases h with
  | rest buffer workers | drop buffer workers =>
    rw [buffer, same workers] at hid
    exact .inl (List.mem_append.mpr hid)
  | accept buffer workers =>
    rw [buffer, same workers, List.mem_append, List.mem_singleton] at hid
    rcases hid with (waits | rfl) | held
    · exact .inl (List.mem_append_left _ waits)
    · exact .inr rfl
    · exact .inl (List.mem_append_right _ held)
  | dequeue stands buffer workers =>
    refine .inl (List.mem_append.mpr ?_)
    rw [buffer]
    rcases hid with waits | holds
    · exact .inl (List.mem_cons_of_mem _ waits)
    · rcases mem_held_of_set workers holds with held | taken
      · exact .inr held
      · cases taken
        exact .inl List.mem_cons_self
  | @spawn _ n buffer workers =>
    have starting : (List.replicate n Phase.starting).filterMap Phase.held? = [] :=
      List.filterMap_eq_nil_iff.mpr fun φ hφ => by rw [List.eq_of_mem_replicate hφ]; rfl
    have held : q.held = p.held := by
      rw [Pool.held, workers, List.filterMap_append, starting, List.append_nil, Pool.held]
    rw [buffer, held] at hid
    exact .inl (List.mem_append.mpr hid)
  | shift stands shifts buffer workers =>
    rw [buffer] at hid
    refine .inl (List.mem_append.mpr (hid.imp_right fun holds => ?_))
    rcases mem_held_of_set workers holds with held | came
    · exact held
    · exact mem_held stands (shifts.held came)

private theorem offered?_eq_some {outcome : EnqueueOutcome} {id : Uuid}
    (h : w.offered? outcome a = some id) : a = .enqueue id := by
  cases a with
  | enqueue i =>
    simp only [World.offered?] at h
    split at h
    · cases h
      rfl
    · cases h
  | _ => cases h

theorem World.Undisturbed.change (h : w.Undisturbed a) :
    Change Keeps w (w.act a) (w.exchange? a) :=
  World.change_act a fun b hb => by
    subst hb
    exact h

theorem keeps_change {d : Option (Uuid × Exchange)} (h : Settling w) (hc : Change Keeps w w' d) :
    Keeps w.backend w'.backend := by
  cases hc with
  | still | mark | test | spawn | accept | drop | move | take | untrack => exact .of_store_eq rfl rfl
  | answer provider stands =>
    obtain ⟨⟨xs, leaves⟩, _⟩ := h.jobs _ (List.mem_of_getElem? stands)
    exact .answer leaves provider
  | crash => exact .of_store_eq rfl rfl
  | elsewhere admitted => exact admitted

private theorem settles_change {d : Option (Uuid × Exchange)} (h : Settling w)
    (hc : Change Keeps w w' d) : ∀ φ ∈ w'.pool.workers, φ.Settles w'.backend := by
  have keeps := keeps_change h hc
  have old : ∀ φ ∈ w.pool.workers, φ.Settles w'.backend := fun φ hφ => (h.jobs φ hφ).keep keeps
  have set : ∀ {v ψ}, ψ.Settles w'.backend →
      ∀ φ ∈ w.pool.workers.set v ψ, φ.Settles w'.backend := fun hψ φ hφ =>
    (List.mem_or_eq_of_mem_set hφ).elim (old φ) fun same => same ▸ hψ
  cases hc with
  | still same =>
    rw [same.workers]
    exact old
  | mark | test | accept | drop | elsewhere => exact old
  | spawn =>
    intro φ hφ
    rcases List.mem_append.mp hφ with hφ | hφ
    · exact old φ hφ
    · rw [List.eq_of_mem_replicate hφ]
      trivial
  | move stands moves =>
    refine set ?_
    have before := old _ (List.mem_of_getElem? stands)
    cases moves with
    | start => exact ⟨⟨[], .all _⟩, nofun⟩
    | conclude => exact before.2 _ rfl
    | announce | withdraw | report | leave => trivial
  | take stands head => exact set trivial
  | @answer v id c next provider stands =>
    obtain ⟨⟨xs, leaves⟩, _⟩ := h.jobs _ (List.mem_of_getElem? stands)
    have stored := h.stored id (List.mem_append_right _ (mem_held stands rfl))
    exact set ⟨⟨_, leaves.snoc _⟩, fun o => isClosed_of_ended h.faultless stored leaves⟩
  | crash stands => exact set trivial
  | @untrack v id o stands =>
    have closed : IsClosed w.backend id := old _ (List.mem_of_getElem? stands)
    exact set closed

theorem settling_act (h : Settling w) (undisturbed : w.Undisturbed a) : Settling (w.act a) where
  faultless := (keeps_change h undisturbed.change).faultless h.faultless
  stored id hid := by
    have keeps := keeps_change h undisturbed.change
    rcases (World.serves_act w a).waiting hid with before | accepted
    · exact keeps.stored id (h.stored id before)
    · obtain rfl := offered?_eq_some accepted
      exact keeps.stored id undisturbed
  jobs := settles_change h undisturbed.change

/-- Every job that a worker is at is what its exchanges leave of it. -/
def Courses (p : Pool) : Prop :=
  ∀ id q, .working id q ∈ p.workers → ∃ xs, (Job.process id).Leaves xs q

theorem Courses.serves {accepted dropped dequeued : Option Uuid} (h : Courses p)
    (serves : Serves p a accepted dropped dequeued q) : Courses q := by
  have set : ∀ {v ψ}, (∀ id q, ψ = .working id q → ∃ xs, (Job.process id).Leaves xs q) →
      ∀ id q, .working id q ∈ p.workers.set v ψ → ∃ xs, (Job.process id).Leaves xs q :=
    fun hψ id q hq => (List.mem_or_eq_of_mem_set hq).elim (h id q) fun same => hψ id q same.symm
  cases serves with
  | rest _ workers | accept _ workers | drop _ workers =>
    rw [Courses, workers]
    exact h
  | dequeue _ _ workers =>
    rw [Courses, workers]
    exact set nofun
  | spawn _ workers =>
    intro id q hq
    rw [workers] at hq
    rcases List.mem_append.mp hq with hq | hq
    · exact h id q hq
    · cases List.eq_of_mem_replicate hq
  | shift stands shifts _ workers =>
    rw [Courses, workers]
    refine set fun id q same => ?_
    cases shifts with
    | start turn =>
      cases same
      exact ⟨[], .all _⟩
    | answer r turn =>
      cases same
      obtain ⟨xs, leaves⟩ := h _ _ (List.mem_of_getElem? stands)
      exact ⟨_, leaves.snoc r⟩
    | announce | withdraw | conclude | crash | untrack | report | leave => cases same

theorem find?_act (h : Courses w.pool) {j : Uuid} (free : j ∉ w.pool.held)
    (spared : ∀ b, a = .elsewhere b →
      b.store.meetings.find? j = w.backend.store.meetings.find? j) :
    (w.act a).backend.store.meetings.find? j = w.backend.store.meetings.find? j := by
  have change : Change (fun b b' => b'.store.meetings.find? j = b.store.meetings.find? j) w
      (w.act a) (w.exchange? a) := World.change_act a spared
  generalize w.act a = w', w.exchange? a = d at change ⊢
  cases change with
  | still | mark | test | spawn | accept | drop | move | take | untrack | crash => rfl
  | @answer v id c next provider stands =>
    obtain ⟨xs, leaves⟩ := h _ _ (List.mem_of_getElem? stands)
    refine Job.find?_answer_of_leaves leaves (fun same => free ?_) w.backend provider
    exact same ▸ mem_held stands rfl
  | elsewhere admitted => exact admitted

end Pool

end MeetingInsights
