import MeetingInsights.Proofs.ParallelJobs

/-! # Transitions of statuses

The statuses of meetings under jobs side by side. A status moves along the documented transitions,
except that a job whose beginning was missed may close a queued meeting. What a job reports as done
is stored as done, unless the last update of the job has failed.
-/

namespace MeetingInsights

/-- The documented transitions. -/
inductive Status.Edge : Status → Status → Prop where
  | begin : Edge .queued .processing
  | complete : Edge .processing .done
  | fail : Edge .processing .failed

namespace Job

private theorem Ongoing.Moves.edge {p : Parallel} {j : Ongoing} {provider : Provider}
    {status s : Status} (h : j.Moves provider p.backend status) (hp : p.Sound) (hj : j ∈ p.jobs)
    (hs : p.statusOf? j.meeting = some s) (hne : s ≠ status) :
    s.Edge status ∨ s = .queued ∧ j.HasMissedBeginning := by
  obtain ⟨old, hold, hterm⟩ := h.old
  obtain rfl : s = old := Option.some.inj (hs.symm.trans hold)
  cases h.due with
  | begin past =>
    cases s with
    | queued => exact .inl .begin
    | processing => exact (hne rfl).elim
    | done | failed => cases hterm
  | @close _ r ys terminal past begun =>
    cases s with
    | processing =>
      cases status with
      | done => exact .inl .complete
      | failed => exact .inl .fail
      | queued | processing => cases terminal
    | done | failed => cases hterm
    | queued =>
      cases r with
      | error e => exact .inr ⟨rfl, e, ys, past, begun⟩
      | ok _ =>
        -- A job that has marked its meeting as processed does not find it queued.
        have hu : j.HasUpdated .processing := ⟨none, by rw [past]; exact List.mem_cons_self⟩
        obtain ⟨t, ht, hq⟩ := hp.begun j hj hu
        exact (hq (Option.some.inj (ht.symm.trans hs))).elim

/-- In every run of jobs side by side, a change of a status is no documented transition exactly when
it comes from a job that has missed its beginning and closes a meeting that is still queued. -/
theorem not_edge_iff_missed_beginning {b : Backend} {actions : List Parallel.Action}
    {a : Parallel.Action} {id : Uuid} {s t : Status}
    (hs : ((Parallel.alone b).run actions).statusOf? id = some s)
    (ht : ((Parallel.alone b).run (actions ++ [a])).statusOf? id = some t) (hne : s ≠ t) :
    ¬ s.Edge t ↔ s = .queued ∧ ∃ i provider j, a = .advance i provider ∧
      ((Parallel.alone b).run actions).jobs[i]? = some j ∧ j.meeting = id ∧
      j.HasMissedBeginning := by
  have hp := (Parallel.sound_alone b).run actions
  rw [Parallel.run_snoc] at ht
  generalize (Parallel.alone b).run actions = p at *
  rcases Parallel.statusOf?_act hp a with hk | ⟨i, provider, j, status, rfl, hj, hm, hact⟩
  · rw [hk, hs] at ht
    exact (hne (Option.some.inj ht)).elim
  · rw [Parallel.statusOf?, hact, hm.new] at ht
    split at ht
    · rename_i hid
      subst hid
      obtain rfl : status = t := Option.some.inj ht
      constructor
      · intro hedge
        obtain ⟨hq, hmiss⟩ :=
          (hm.edge hp (List.mem_of_getElem? hj) hs hne).resolve_left hedge
        exact ⟨hq, i, provider, j, rfl, hj, rfl, hmiss⟩
      · rintro ⟨rfl, i', provider', j', ha, hj', _, e, ys, hpast, _⟩ hedge
        cases ha
        obtain rfl : j = j' := Option.some.inj (hj.symm.trans hj')
        cases hedge
        cases hm.due with
        | begin past => simp [past] at hpast
        | close terminal => cases terminal
    · rw [Parallel.statusOf?] at hs
      exact (hne (Option.some.inj (hs.symm.trans ht))).elim

def silent : Provider := fun _ _ => .ok []

def unbegun : List Parallel.Action :=
  [.launch ⟨1⟩, .disturb [⟨.updateStatus, 0, 1, .failure (.database "connection lost")⟩] default
    default, .advance 0 silent, .advance 0 silent, .advance 0 silent, .advance 0 silent]

theorem missed_beginning_of_unbegun :
    ∃ j, ((Parallel.alone Backend.oneQueued).run unbegun).jobs[0]? = some j ∧ j.HasMissedBeginning := by
  have hs : ((Parallel.alone Backend.oneQueued).run unbegun).statusOf? ⟨1⟩ = some .queued := by decide
  have ht : ((Parallel.alone Backend.oneQueued).run (unbegun ++ [.advance 0 silent])).statusOf? ⟨1⟩ =
    some .done := by decide
  obtain ⟨_, i, provider, j, ha, hj, _, hm⟩ :=
    (not_edge_iff_missed_beginning hs ht (by decide)).mp (by rintro ⟨⟩)
  cases ha
  exact ⟨j, hj, hm⟩

theorem not_all_changes_are_edges :
    ¬ ∀ (b : Backend) (actions : List Parallel.Action) (a : Parallel.Action) (id : Uuid)
      (s t : Status), ((Parallel.alone b).run actions).statusOf? id = some s →
      ((Parallel.alone b).run (actions ++ [a])).statusOf? id = some t → s ≠ t → s.Edge t := by
  intro h
  cases h Backend.oneQueued unbegun (.advance 0 silent) ⟨1⟩ .queued .done (by decide) (by decide)
    (by decide)

theorem run_process_of_refusal {b b' : Backend} {id : Uuid} {detail : String} {provider : Provider}
    (refused : b.answer provider (beginCall id) = (.error (.invalidTransition detail), b')) :
    (process id).run provider b = (.skipped, b') := by
  change Program.run provider (.call (beginCall id) fun r =>
    if isRefusal r then .done .skipped else advance id) b = _
  rw [Program.run_call, refused]
  rfl

theorem run_process_of_terminal {b : Backend} {id : Uuid} {s : Status} (hb : b.faults = [])
    (hs : b.store.statusOf? id = some s) (hterm : s.isTerminal = true) (provider : Provider) :
    (process id).run provider b = (.skipped, b) :=
  run_process_of_refusal (Backend.answer_updateStatus_of_terminal hb hs hterm .processing none)

namespace Parallel

/-- A meeting is done and stays so, and a job of it that nothing disturbs is skipped, whenever it
comes, and leaves everything as it is. -/
def IsDoneForGood (p : Parallel) (id : Uuid) : Prop :=
  ∀ later, (p.run later).statusOf? id = some .done ∧
    ∀ provider, (process id).run provider { (p.run later).backend with faults := [] } =
      (.skipped, { (p.run later).backend with faults := [] })

/-- The next answer to a job is its last, and the job reports this outcome. -/
def Reports (p : Parallel) (i : Nat) (provider : Provider) (id : Uuid) (outcome : Outcome) : Prop :=
  ∃ j, p.jobs[i]? = some j ∧ j.meeting = id ∧ j.rest.result? = none ∧
    (j.advance provider p.backend).1.rest.result? = some outcome

/-- The last answer to a job is the success of the update to `done`. -/
def HasStoredDone (p : Parallel) (i : Nat) (id : Uuid) : Prop :=
  ∃ j, p.jobs[i]? = some j ∧ j.past.getLast? = some ⟨.updateStatus id .done none, .ok ()⟩

private theorem isDoneForGood_iff {p : Parallel} (h : p.Sound) {id : Uuid} :
    p.IsDoneForGood id ↔ p.statusOf? id = some .done := by
  constructor
  · intro hgood
    exact (hgood []).1
  · intro hs later
    have hlater := statusOf?_run_of_terminal h later hs rfl
    refine ⟨hlater, fun provider => ?_⟩
    have hterm : Status.isTerminal .done = true := rfl
    exact run_process_of_terminal rfl (by exact hlater) hterm provider

theorem Reports.rest {p : Parallel} (h : p.Sound) {i : Nat} {provider : Provider} {id : Uuid}
    {s : Merge.Summary} (hr : p.Reports i provider id (.done s)) :
    ∃ past next, p.jobs[i]? = some ⟨id, past, .call (.updateStatus id .done none) next⟩ := by
  obtain ⟨⟨j, past, rest⟩, hj, rfl, hrest, hout⟩ := hr
  cases rest with
  | done o => cases hrest
  | call c next =>
    have hadv := ((h.jobs _ (List.mem_of_getElem? hj)).advance provider p.backend).takes
    rw [hout] at hadv
    obtain ⟨_, _, _, _, _, _, _, hpast, _⟩ := (course_of_takes hadv).of_done
    obtain ⟨_, hlast⟩ := List.append_inj' hpast rfl
    have hc : c = .updateStatus j .done none :=
      congrArg Exchange.call (List.singleton_inj.mp hlast)
    subst hc
    exact ⟨past, next, hj⟩

/-- When a job reports `done`, in whatever run of jobs side by side, its meeting is done for good
exactly when the last update of the job has succeeded or the meeting was done before it. -/
theorem done_for_good_iff_stored {b : Backend} {actions : List Action} {i : Nat}
    {provider : Provider} {id : Uuid} {s : Merge.Summary}
    (h : ((alone b).run actions).Reports i provider id (.done s)) :
    ((alone b).run (actions ++ [.advance i provider])).IsDoneForGood id ↔
      ((alone b).run (actions ++ [.advance i provider])).HasStoredDone i id ∨
        ((alone b).run actions).statusOf? id = some .done := by
  have hp := (sound_alone b).run actions
  rw [run_snoc]
  generalize (alone b).run actions = p at *
  obtain ⟨past, next, hj⟩ := h.rest hp
  obtain ⟨hi, _⟩ := List.getElem?_eq_some_iff.mp hj
  rw [isDoneForGood_iff (hp.act _), act_advance hj]
  simp only [HasStoredDone, statusOf?, List.getElem?_set_self hi, Option.some.injEq,
    exists_eq_left', Ongoing.advance_call, List.getLast?_concat]
  rcases p.backend.answer_updateStatus provider id .done none with ⟨⟨e, he⟩, hb⟩ | ⟨hr, _, hnew⟩
  · simp [he, hb]
  · simp [hr, hnew]

/-- The job of the meeting up to its last call, with nothing in its way. -/
def undisturbed : List Action :=
  [.launch ⟨1⟩, .advance 0 silent, .advance 0 silent, .advance 0 silent, .advance 0 silent]

theorem done_for_good_of_undisturbed :
    ((alone Backend.oneQueued).run (undisturbed ++ [.advance 0 silent])).IsDoneForGood ⟨1⟩ := by
  have reports : ((alone Backend.oneQueued).run undisturbed).Reports 0 silent ⟨1⟩ (.done .empty) :=
    ⟨_, rfl, rfl, rfl, rfl⟩
  exact (done_for_good_iff_stored reports).mpr (.inl ⟨_, rfl, rfl⟩)

/-- Two jobs of the meeting, both asking about it, of which the first gets no answer and has its
meeting failed before the second gets one. No call is disturbed. -/
def overtaken : List Action :=
  [.launch ⟨1⟩, .advance 0 silent, .advance 0 silent, .advance 0 silent,
    .launch ⟨1⟩, .advance 1 silent, .advance 1 silent, .advance 1 silent,
    .advance 0 fun _ _ => .error (.extraction "rate limited"), .advance 0 silent,
    .advance 1 silent]

/-- A job may report `done` of a meeting that has failed. -/
theorem not_all_reported_done_are_done :
    ¬ ∀ (b : Backend) (actions : List Action) (i : Nat) (provider : Provider) (id : Uuid)
      (s : Merge.Summary), ((alone b).run actions).Reports i provider id (.done s) →
      ((alone b).run (actions ++ [.advance i provider])).IsDoneForGood id := by
  intro h
  have reports : ((alone Backend.oneQueued).run overtaken).Reports 1 silent ⟨1⟩ (.done .empty) :=
    ⟨_, rfl, rfl, rfl, rfl⟩
  have failed : ((alone Backend.oneQueued).run (overtaken ++ [.advance 1 silent])).statusOf? ⟨1⟩ =
    some .failed := by decide
  have done := (h Backend.oneQueued overtaken 1 silent ⟨1⟩ .empty reports []).1
  rw [Parallel.run_nil, failed] at done
  cases done

end Parallel

end Job

end MeetingInsights
