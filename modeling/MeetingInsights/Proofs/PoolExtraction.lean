import MeetingInsights.Proofs.MeetingStories

/-! # One extraction for each meeting

In every run of a pool over a backend that disturbs nothing, each meeting is put before the provider
once at most, its evidence comes from the one answer, and a completed job has added just what that
answer tells.
-/

namespace MeetingInsights.Pool

variable {id : Uuid} {n : Nat} {w w' : World} {xs : List Exchange}

/-- The evidence from a meeting, beside that at the start, is what its jobs have added, and the
opportunities that they have created are stored. -/
structure Booked (start : Store) (id : Uuid) (s : Store) (xs : List Exchange) : Prop where
  evidence : ∃ added, s.evidenceFrom id = start.evidenceFrom id ++ added ∧
    added.map Evidence.words = (evidenceAdded xs).map EvidenceDraft.words
  opportunities : (opportunitiesCreated xs).Sublist (s.opportunities.map OpportunityRecord.id)

private theorem booked_nil (start : Store) (id : Uuid) : Booked start id start [] where
  evidence := ⟨[], by simp, rfl⟩
  opportunities := List.nil_sublist _

theorem Booked.own {start : Store} {b b' : Backend} {x : Exchange} (h : Booked start id b.store xs)
    (grows : b.Grows b' x) (own : ∀ draft, x.evidence? = some draft → draft.meetingId = id) :
    Booked start id b'.store (xs ++ [x]) where
  evidence := by
    obtain ⟨added, hadded, words⟩ := h.evidence
    obtain ⟨rows, hrows, words'⟩ := grows.evidenceFrom id
    refine ⟨added ++ rows, by rw [hrows, hadded, List.append_assoc], ?_⟩
    rw [List.filter_eq_self.mpr] at words'
    · rw [List.map_append, words, words', evidenceAdded_append, List.map_append,
        evidenceAdded_singleton]
    · intro draft hd
      exact decide_eq_true (own draft (Option.mem_toList.mp hd))
  opportunities := by
    rw [grows.opportunities, opportunitiesCreated_append, opportunitiesCreated_singleton]
    exact h.opportunities.append (List.Sublist.refl _)

theorem Booked.other {start : Store} {b b' : Backend} {x : Exchange}
    (h : Booked start id b.store xs) (grows : b.Grows b' x)
    (other : ∀ draft, x.evidence? = some draft → draft.meetingId ≠ id) :
    Booked start id b'.store xs where
  evidence := by
    obtain ⟨added, hadded, words⟩ := h.evidence
    obtain ⟨rows, hrows, words'⟩ := grows.evidenceFrom id
    rw [List.filter_eq_nil_iff.mpr, List.map_nil] at words'
    · refine ⟨added, ?_, words⟩
      rw [hrows, List.map_eq_nil_iff.mp words', List.append_nil, hadded]
    · intro draft hd
      simpa using other draft (Option.mem_toList.mp hd)
  opportunities := by
    rw [grows.opportunities]
    exact h.opportunities.trans (List.sublist_append_left _ _)

private theorem booked_change {start : Store} {d : Option (Uuid × Exchange)}
    (h : Booked start id w.backend.store xs) (calm : Calm w) (hc : Change Bystanding w w' d) :
    Booked start id w'.backend.store (xs ++ dealing id d) := by
  cases hc with
  | still | mark | test | spawn | accept | drop | move | take | crash | untrack =>
    rw [dealing, List.append_nil]
    exact h
  | @answer v i c next provider stands =>
    obtain ⟨job, underWay⟩ := calm.jobs _ _ _ stands
    have grows := Backend.grows_perform w.backend provider c
    rw [← Backend.answer_of_faultless calm.faultless] at grows
    by_cases hi : i = id
    · subst hi
      rw [dealing, if_pos rfl]
      exact h.own grows fun draft hd => underWay.meetingId_of_evidence hd
    · rw [dealing, if_neg hi, List.append_nil]
      refine h.other grows fun draft hd => ?_
      rw [underWay.meetingId_of_evidence hd]
      exact hi
  | elsewhere admitted =>
    rw [dealing, List.append_nil]
    refine ⟨?_, h.opportunities.trans admitted.opportunities⟩
    rw [Store.evidenceFrom, admitted.evidence]
    exact h.evidence

/-- What is known of the extraction of a meeting in a run that began with some backend, after all
that its jobs have exchanged. -/
structure ExtractedOnce (id : Uuid) (start : Backend) (w : World) (xs : List Exchange) : Prop where
  /-- It has been put before the provider once at most. -/
  once : (w.backend.questionsAbout id).length ≤ (start.questionsAbout id).length + 1
  /-- All evidence that was not there at the start comes from the one answer, in order. -/
  evidence : ∃ added, w.backend.store.evidenceFrom id = start.store.evidenceFrom id ++ added ∧
    ((findingsGiven xs = [] ∧ added = []) ∨ ∃ findings, findingsGiven xs = [findings] ∧
      added.map Evidence.words <+:
        (Quote.telling (findings.flatMap Finding.quotes)).map Quote.words)
  /-- A job that is told to be completed has got the one answer. It has added all the telling quotes
  of the answer and created as many opportunities as is told. -/
  completed : ∀ c e, .jobCompleted id c e ∈ w.pool.events →
    ∃ before job after summary findings added, xs = before ++ (job ++ after) ∧
      (Job.process id).Takes job (some (.done summary)) ∧ findingsGiven job = [findings] ∧
      findingsGiven xs = [findings] ∧
      w.backend.store.evidenceFrom id = start.store.evidenceFrom id ++ added ∧ added.length = e ∧
      added.map Evidence.words =
        (Quote.telling (findings.flatMap Finding.quotes)).map Quote.words ∧
      (opportunitiesCreated job).length = c ∧
      (opportunitiesCreated job).Sublist
        (w.backend.store.opportunities.map OpportunityRecord.id)

theorem recorded_between {before after : List Exchange} (job : List Exchange) (h : Quiet before)
    (h' : Quiet after) :
    findingsGiven (before ++ (job ++ after)) = findingsGiven job ∧
      evidenceAdded (before ++ (job ++ after)) = evidenceAdded job ∧
      opportunitiesCreated (before ++ (job ++ after)) = opportunitiesCreated job := by
  obtain ⟨_, hf, he, ho⟩ := nothing_of_isPlain h
  obtain ⟨_, hf', he', ho'⟩ := nothing_of_isPlain h'
  simp [hf, he, ho, hf', he', ho']

/-- Where all that is recorded comes from one job, the evidence that has been added comes from the
answer to this job. -/
theorem evidence_of_job {added : List Evidence} {before job after : List Exchange}
    {o : Option Job.Outcome}
    (words : added.map Evidence.words =
      (evidenceAdded (before ++ (job ++ after))).map EvidenceDraft.words)
    (h : Quiet before) (h' : Quiet after) (course : Job.Course id job o) :
    (findingsGiven (before ++ (job ++ after)) = [] ∧ added = []) ∨
      ∃ findings, findingsGiven (before ++ (job ++ after)) = [findings] ∧
        added.map Evidence.words <+:
          (Quote.telling (findings.flatMap Finding.quotes)).map Quote.words := by
  obtain ⟨hf, he, _⟩ := recorded_between job h h'
  rw [he] at words
  rw [hf, words]
  rcases course.recorded with ⟨none, quotes⟩ | ⟨findings, given, quotes⟩
  · rw [quotes] at words
    exact .inl ⟨none, List.map_eq_nil_iff.mp words⟩
  · exact .inr ⟨findings, given, quotes⟩

private theorem Story.extractedOnce {start : Backend}
    (h : Story id (start.questionsAbout id).length w xs)
    (booked : Booked start.store id w.backend.store xs) : ExtractedOnce id start w xs := by
  obtain ⟨added, evidence, words⟩ := booked.evidence
  have nothing : Quiet xs → findingsGiven xs = [] ∧ added = [] := by
    intro quiet
    obtain ⟨_, hf, he, _⟩ := nothing_of_isPlain quiet
    rw [he] at words
    exact ⟨hf, List.map_eq_nil_iff.mp words⟩
  cases h with
  | unasked never quiet _ _ untold =>
    exact ⟨Nat.le_succ_of_le (Nat.le_of_eq never), ⟨added, evidence, .inl (nothing quiet)⟩,
      fun c e he => (untold c e (.inl he)).elim⟩
  | @asking _ _ before job once split quiet _ underWay _ _ untold =>
    refine ⟨Nat.le_of_eq once, ⟨added, evidence, ?_⟩, fun c e he => (untold c e (.inl he)).elim⟩
    rw [← List.append_nil job] at split
    subst split
    exact evidence_of_job words quiet (List.forall_mem_nil fun x : Exchange => x.call.IsPlain)
      (Job.course_of_takes underWay.takes)
  | @asked before job after o once split quiet still takes _ _ _ told =>
    subst split
    have course := Job.course_of_takes takes
    refine ⟨Nat.le_of_eq once, ⟨added, evidence, evidence_of_job words quiet still course⟩,
      fun c e he => ?_⟩
    obtain ⟨hf, he', ho⟩ := recorded_between job quiet still
    have ended := told c e (.inl he)
    cases o with
    | failed | skipped => cases ended
    | done summary =>
      obtain ⟨rfl, rfl, rfl⟩ := ended
      obtain ⟨findings, given, quotes, count, created⟩ := course.recorded_of_done
      have opportunities := booked.opportunities
      rw [ho] at opportunities
      rw [he'] at words
      refine ⟨before, job, after, summary, findings, added, rfl, takes, given, hf.trans given,
        evidence, ?_, words.trans quotes, by rw [created], opportunities⟩
      rw [count, ← List.length_map EvidenceDraft.words, ← words, List.length_map]
  | crashed once quiet _ untold =>
    exact ⟨Nat.le_of_eq once, ⟨added, evidence, .inl (nothing quiet)⟩,
      fun c e he => (untold c e (.inl he)).elim⟩

/-- In every run of a pool over a backend that disturbs nothing, beside which others leave statuses
and evidence alone, a meeting is put before the provider once at most, all evidence that is added
from it comes from that one answer, and what is told of a completed job is what it has written. -/
theorem extracted_once {settings : Settings} {b : Backend} {actions : List Action}
    (faultless : b.faults = []) (beside : (World.opened settings b).Permits Bystanding actions)
    (id : Uuid) :
    ExtractedOnce id b ((World.opened settings b).run actions)
      ((World.opened settings b).dealings id actions) := by
  -- The story goes on only in a pool that tracks its meetings and is calm, so all four are kept.
  have run := World.run_invariant
    (I := fun w xs => (Tracking w.pool ∧ Calm w) ∧
      Story id (b.questionsAbout id).length w xs ∧ Booked b.store id w.backend.store xs)
    (w := .opened settings b)
    ⟨⟨tracking_new settings, faultless, by simp [World.opened, new]⟩,
      .unasked rfl (by simp [Quiet]) (by simp [World.opened, new]) (by simp [World.opened, new])
        (by simp [World.opened, new, Tells]), booked_nil _ _⟩
    (fun ⟨⟨tracking, calm⟩, story, booked⟩ hc =>
      ⟨⟨tracking_change tracking hc, calm_change calm hc⟩, story.change tracking calm hc,
        booked_change booked calm hc⟩)
    beside
  exact run.2.1.extractedOnce run.2.2

def finder : Provider := fun _ _ =>
  .ok [.proposed ⟨"Sales", "Slow export", none, none, none,
    [⟨"It takes an hour", none⟩, ⟨" ", none⟩]⟩]

/-- Two workers, of which one takes a meeting through its job. The meeting is offered again before
that is told, and the other worker is refused it. -/
def offeredTwice : List Action :=
  [.markStart, .testStart, .spawn, .enqueue ⟨1⟩, .announce 0, .announce 1, .take 1, .startJob 1,
    .work 1 finder, .work 1 finder, .work 1 finder, .work 1 finder, .work 1 finder, .work 1 finder,
    .work 1 finder, .work 1 finder, .untrack 1, .enqueue ⟨1⟩, .report 1, .take 0, .startJob 0,
    .work 0 finder, .work 0 finder, .untrack 0, .report 0]

theorem evidence_of_offeredTwice :
    ((((World.opened ⟨2, 3, 1000⟩ .oneQueued).run offeredTwice).backend.store).evidenceFrom
      ⟨1⟩).length = 1 := by
  have completed : .jobCompleted ⟨1⟩ 1 1 ∈
      ((World.opened ⟨2, 3, 1000⟩ .oneQueued).run offeredTwice).pool.events := by decide +kernel
  have beside : (World.opened ⟨2, 3, 1000⟩ .oneQueued).Permits Bystanding offeredTwice :=
    World.permits_of_forall_ne (by simp [offeredTwice]) _
  obtain ⟨_, _, _, _, _, added, _, _, _, _, evidence, count, _⟩ :=
    (extracted_once rfl beside ⟨1⟩).completed 1 1 completed
  rw [evidence, List.length_append, count]
  rfl

end MeetingInsights.Pool
