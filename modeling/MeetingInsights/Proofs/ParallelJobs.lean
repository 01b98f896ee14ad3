import MeetingInsights.Proofs.JobExchanges
import MeetingInsights.Proofs.Statuses

/-! # Jobs side by side

Any number of jobs share one backend and have their calls answered in any order, each by any
provider. Between two calls the faults may become any others, and so may the time and the
identifiers of new rows: every call may fail, and one that fails changes nothing.
-/

namespace MeetingInsights.Job

/-- A job under way: its meeting, what it has exchanged, and the rest of it. -/
structure Ongoing where
  meeting : Uuid
  past : List Exchange
  rest : Program Outcome

namespace Ongoing

def launched (id : Uuid) : Ongoing := ⟨id, [], process id⟩

/-- The next call of a job is answered. One that is over stays as it is. -/
def advance (j : Ongoing) (provider : Provider) (b : Backend) : Ongoing × Backend :=
  match j.rest with
  | .done _ => (j, b)
  | .call c next =>
    let (r, b) := b.answer provider c
    (⟨j.meeting, j.past ++ [⟨c, r⟩], next r⟩, b)

def IsTrue (j : Ongoing) : Prop := (process j.meeting).Leaves j.past j.rest

/-- The job was to be begun and went on without that: the update failed and was not refused. -/
def HasMissedBeginning (j : Ongoing) : Prop :=
  ∃ e ys, j.past = ⟨beginCall j.meeting, .error e⟩ :: ys ∧ isRefusal (.error e) = false

theorem advance_call {id : Uuid} {past : List Exchange} {c : Call}
    {next : c.Answer → Program Outcome} (provider : Provider) (b : Backend) :
    advance ⟨id, past, .call c next⟩ provider b =
      (⟨id, past ++ [⟨c, (b.answer provider c).1⟩], next (b.answer provider c).1⟩,
        (b.answer provider c).2) := rfl

@[simp] theorem meeting_advance (j : Ongoing) (provider : Provider) (b : Backend) :
    (j.advance provider b).1.meeting = j.meeting := by
  unfold advance
  split <;> rfl

theorem IsTrue.advance {j : Ongoing} (h : j.IsTrue) (provider : Provider) (b : Backend) :
    (j.advance provider b).1.IsTrue := by
  obtain ⟨id, past, rest⟩ := j
  cases rest with
  | done o => exact h
  | call c next => exact Program.Leaves.snoc h _

end Ongoing

structure Parallel where
  backend : Backend
  jobs : List Ongoing

namespace Parallel

def alone (b : Backend) : Parallel := ⟨b, []⟩

def statusOf? (p : Parallel) (id : Uuid) : Option Status := p.backend.store.statusOf? id

inductive Action where
  /-- A job is launched, of whatever meeting. -/
  | launch (id : Uuid)
  /-- A job goes on. -/
  | advance (i : Nat) (provider : Provider)
  /-- What answers depend on besides the store becomes another. -/
  | disturb (faults : List Fault) (supply : Supply) (now : Timestamp)

def act (p : Parallel) : Action → Parallel
  | .launch id => { p with jobs := p.jobs ++ [.launched id] }
  | .advance i provider =>
    match p.jobs[i]? with
    | some j => ⟨(j.advance provider p.backend).2, p.jobs.set i (j.advance provider p.backend).1⟩
    | none => p
  | .disturb faults supply now => { p with backend := { p.backend with faults, supply, now } }

def run (p : Parallel) (actions : List Action) : Parallel := actions.foldl act p

theorem act_advance {p : Parallel} {i : Nat} {j : Ongoing} (hj : p.jobs[i]? = some j)
    (provider : Provider) :
    p.act (.advance i provider) =
      ⟨(j.advance provider p.backend).2, p.jobs.set i (j.advance provider p.backend).1⟩ := by
  simp [act, hj]

@[simp] theorem run_nil (p : Parallel) : p.run [] = p := rfl

theorem run_snoc (p : Parallel) (actions : List Action) (a : Action) :
    p.run (actions ++ [a]) = (p.run actions).act a := List.foldl_append ..

end Parallel

namespace Ongoing

/-- The update to this status is due in a job: it begins the job, or closes one that has not been
refused. -/
inductive IsDue (j : Ongoing) : Status → Prop where
  | begin (past : j.past = []) : IsDue j .processing
  | close {status r ys} (terminal : status.isTerminal = true)
      (past : j.past = ⟨beginCall j.meeting, r⟩ :: ys) (begun : isRefusal r = false) :
      IsDue j status

/-- The only updates that a job makes are those that are due, of its own meeting. -/
theorem IsTrue.isDue {j : Ongoing} (h : j.IsTrue) {id : Uuid} {status : Status}
    {message : Option String} {next : (Call.updateStatus id status message).Answer → Program Outcome}
    (hrest : j.rest = .call (.updateStatus id status message) next) :
    id = j.meeting ∧ j.IsDue status := by
  rw [IsTrue, hrest] at h
  rcases next_of_leaves h with ⟨hpast, hc⟩ | ⟨r, ys, hpast, hgo, hid, hs⟩
  · cases hc
    exact ⟨rfl, .begin hpast⟩
  · exact ⟨hid, .close hs hpast hgo⟩

private theorem IsTrue.call_ne_createMeeting {j : Ongoing} (h : j.IsTrue) {c : Call}
    {next : c.Answer → Program Outcome} (hrest : j.rest = .call c next) (draft : MeetingDraft) :
    c ≠ .createMeeting draft := by
  rintro rfl
  rw [IsTrue, hrest] at h
  rcases next_of_leaves h with ⟨_, hc⟩ | ⟨_, _, _, _, hfollow⟩
  · cases hc
  · exact hfollow

/-- A job that moves its meeting to a status: the update that is due has succeeded. -/
structure Moves (j : Ongoing) (provider : Provider) (b : Backend) (status : Status) : Prop where
  due : j.IsDue status
  call : ∃ message next, j.rest = .call (.updateStatus j.meeting status message) next ∧
    (j.advance provider b).1 =
      ⟨j.meeting, j.past ++ [⟨.updateStatus j.meeting status message, .ok ()⟩], next (.ok ())⟩
  old : ∃ s, b.store.statusOf? j.meeting = some s ∧ s.isTerminal = false
  new : ∀ id, (j.advance provider b).2.store.statusOf? id =
    if id = j.meeting then some status else b.store.statusOf? id

def HasUpdated (j : Ongoing) (status : Status) : Prop :=
  ∃ message, (⟨.updateStatus j.meeting status message, .ok ()⟩ : Exchange) ∈ j.past

/-- The answer to a job's next call moves its meeting, or leaves all statuses alone and is not the
success of an update. -/
theorem IsTrue.moves {j : Ongoing} (h : j.IsTrue) (provider : Provider) (b : Backend) :
    (∃ status, j.Moves provider b status) ∨
      (∀ id, (j.advance provider b).2.store.statusOf? id = b.store.statusOf? id) ∧
        ∀ status, (j.advance provider b).1.HasUpdated status → j.HasUpdated status := by
  obtain ⟨id, past, rest⟩ := j
  cases rest with
  | done o => exact .inr ⟨fun _ => rfl, fun _ h => h⟩
  | call c next =>
    have last : ∀ {status : Status},
        (Ongoing.advance ⟨id, past, .call c next⟩ provider b).1.HasUpdated status →
        (⟨id, past, .call c next⟩ : Ongoing).HasUpdated status ∨
          ∃ message, (⟨.updateStatus id status message, .ok ()⟩ : Exchange) =
            ⟨c, (b.answer provider c).1⟩ := by
      rintro status ⟨message, hm⟩
      rcases List.mem_append.mp hm with hm | hm
      · exact .inl ⟨message, hm⟩
      · exact .inr ⟨message, List.mem_singleton.mp hm⟩
    by_cases hc : ∃ i status message, c = .updateStatus i status message
    · obtain ⟨i, status, message, rfl⟩ := hc
      obtain ⟨rfl, due⟩ := h.isDue rfl
      rcases b.answer_updateStatus provider i status message with ⟨⟨e, he⟩, hb⟩ | ⟨hr, hold, hnew⟩
      · refine .inr ⟨fun k => congrArg (Store.statusOf? · k) hb, fun t ht => ?_⟩
        rcases last ht with ht | ⟨m, ht⟩
        · exact ht
        · rw [he] at ht
          cases ht
      · exact .inl ⟨status, due, ⟨message, next, rfl, by rw [advance_call, hr]⟩, hold, hnew⟩
    · refine .inr ⟨fun k => Backend.statusOf?_answer_of_ne (h.call_ne_createMeeting rfl) ?_ k,
        fun t ht => ?_⟩
      · intro i status message he
        exact hc ⟨i, status, message, he⟩
      · rcases last ht with ht | ⟨m, ht⟩
        · exact ht
        · exact (hc ⟨id, t, m, (congrArg Exchange.call ht).symm⟩).elim

theorem IsDue.ne_queued {j : Ongoing} {status : Status} (h : j.IsDue status) :
    status ≠ .queued := by
  rintro rfl
  cases h with
  | close terminal => cases terminal

end Ongoing

namespace Parallel

variable {p : Parallel}

/-- Every job is what its exchanges leave of it, and a meeting whose processing has been marked is
no longer queued. -/
structure Sound (p : Parallel) : Prop where
  jobs : ∀ j ∈ p.jobs, j.IsTrue
  begun : ∀ j ∈ p.jobs, j.HasUpdated .processing →
    ∃ s, p.statusOf? j.meeting = some s ∧ s ≠ .queued

theorem statusOf?_act (h : p.Sound) (a : Action) :
    (∀ id, (p.act a).statusOf? id = p.statusOf? id) ∨
      ∃ i provider j status, a = .advance i provider ∧ p.jobs[i]? = some j ∧
        j.Moves provider p.backend status ∧
        (p.act a).backend = (j.advance provider p.backend).2 := by
  cases a with
  | launch id => exact .inl fun _ => rfl
  | disturb faults supply now => exact .inl fun _ => rfl
  | advance i provider =>
    cases hj : p.jobs[i]? with
    | none => simp [act, hj]
    | some j =>
      have hact : (p.act (.advance i provider)).backend = (j.advance provider p.backend).2 := by
        rw [act_advance hj]
      rcases (h.jobs j (List.mem_of_getElem? hj)).moves provider p.backend with
        ⟨status, hm⟩ | ⟨hs, _⟩
      · exact .inr ⟨i, provider, j, status, rfl, hj, hm, hact⟩
      · refine .inl fun id => ?_
        rw [statusOf?, hact]
        exact hs id

theorem ne_queued_act (h : p.Sound) (a : Action) {id : Uuid}
    (hs : ∃ s, p.statusOf? id = some s ∧ s ≠ .queued) :
    ∃ s, (p.act a).statusOf? id = some s ∧ s ≠ .queued := by
  rcases statusOf?_act h a with hk | ⟨i, provider, j, status, rfl, hj, hm, hact⟩
  · rwa [hk]
  · rw [statusOf?, hact, hm.new]
    split
    · exact ⟨status, rfl, hm.due.ne_queued⟩
    · exact hs

theorem sound_alone (b : Backend) : (alone b).Sound := ⟨by simp [alone], by simp [alone]⟩

theorem Sound.act (h : p.Sound) (a : Action) : (p.act a).Sound := by
  cases a with
  | launch id =>
    constructor
    · intro j hj
      rcases List.mem_append.mp hj with hj | hj
      · exact h.jobs j hj
      · rw [List.mem_singleton.mp hj]
        exact .all _
    · intro j hj hu
      rcases List.mem_append.mp hj with hj | hj
      · exact h.begun j hj hu
      · rw [List.mem_singleton.mp hj] at hu
        obtain ⟨_, hu⟩ := hu
        cases hu
  | disturb faults supply now => exact ⟨h.jobs, h.begun⟩
  | advance i provider =>
    cases hj : p.jobs[i]? with
    | none => simpa [Parallel.act, hj] using h
    | some j =>
      have hact := act_advance hj provider
      have hmem := List.mem_of_getElem? hj
      constructor
      · rw [hact]
        intro k hk
        rcases List.mem_or_eq_of_mem_set hk with hk | rfl
        · exact h.jobs k hk
        · exact (h.jobs j hmem).advance provider _
      · intro k hk hu
        rw [hact] at hk
        rcases List.mem_or_eq_of_mem_set hk with hk | rfl
        · exact ne_queued_act h _ (h.begun k hk hu)
        · rw [Ongoing.meeting_advance]
          rcases (h.jobs j hmem).moves provider p.backend with ⟨status, hm⟩ | ⟨_, hback⟩
          · refine ⟨status, ?_, hm.due.ne_queued⟩
            rw [hact]
            exact (hm.new _).trans (if_pos rfl)
          · exact ne_queued_act h _ (h.begun j hmem (hback _ hu))

/-- A meeting in a terminal status stays in it. -/
theorem statusOf?_act_of_terminal (h : p.Sound) (a : Action) {id : Uuid} {s : Status}
    (hs : p.statusOf? id = some s) (hterm : s.isTerminal = true) :
    (p.act a).statusOf? id = some s := by
  rcases statusOf?_act h a with hk | ⟨i, provider, j, status, rfl, hj, hm, hact⟩
  · rw [hk, hs]
  · rw [statusOf?, hact, hm.new]
    split
    · rename_i hid
      obtain ⟨old, hold, hopen⟩ := hm.old
      subst hid
      obtain rfl : s = old := Option.some.inj (hs.symm.trans hold)
      rw [hterm] at hopen
      cases hopen
    · exact hs

theorem Sound.run (h : p.Sound) (actions : List Action) : (p.run actions).Sound := by
  induction actions generalizing p with
  | nil => exact h
  | cons a actions ih => exact ih (h.act a)

theorem statusOf?_run_of_terminal (h : p.Sound) (actions : List Action) {id : Uuid} {s : Status}
    (hs : p.statusOf? id = some s) (hterm : s.isTerminal = true) :
    (p.run actions).statusOf? id = some s := by
  induction actions generalizing p with
  | nil => exact hs
  | cons a actions ih => exact ih (h.act a) (statusOf?_act_of_terminal h a hs hterm)

end Parallel

end MeetingInsights.Job
