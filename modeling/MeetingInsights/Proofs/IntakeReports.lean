import MeetingInsights.Proofs.IntakeInTurn
import MeetingInsights.Proofs.IntakeProgress
import MeetingInsights.Proofs.JobRuns
import MeetingInsights.Proofs.JobWaits
import MeetingInsights.Proofs.MatchedEvidence
import MeetingInsights.Proofs.StoreIntegrity

/-! # What is reported of a meeting that is taken in

With nothing to disturb it, an intake ends with a report, in whatever order the workers get their
turns, and every one of these runs gives the same report. It says of the meeting what the provider's
answer and the merge of it have come to.
-/

namespace MeetingInsights

namespace Ingest

open Pool (World Phase)

variable {provider : Provider} {settings : Pool.Settings} {draft : MeetingDraft} {b b' : Backend}
  {m : Meeting} {o : Job.Outcome}

def enrolled (draft : MeetingDraft) (b : Backend) : Meeting :=
  .ofDraft draft b.supply.meeting b.now

def enrolling (draft : MeetingDraft) (b : Backend) : Backend :=
  { b with
    store := (b.store.createMeeting draft b.supply.meeting b.now).2
    supply.meeting := b.supply.meeting.next }

/-- What the provider answers when it is shown the meeting, marked as being processed, and the
opportunities that there are. -/
def extracted (provider : Provider) (draft : MeetingDraft) (b : Backend) :
    Except Error (List Finding) :=
  provider ((enrolled draft b).withStatus .processing none b.now) b.store.roster

/-- What the merge of findings comes to, once the provider has been asked. -/
def merged (provider : Provider) (draft : MeetingDraft) (b : Backend) (fs : List Finding) :
    Except Error Merge.Summary × Backend :=
  (Merge.apply b.supply.meeting fs).run provider
    (Job.asked (enrolling draft b) (enrolled draft b))

/-- The stages at which a job can fail, each with its message. -/
inductive FailsWith (provider : Provider) (draft : MeetingDraft) (b : Backend) : String → Prop where
  | unanswered {e : Error} (answer : extracted provider draft b = .error e) :
      FailsWith provider draft b ("AI extraction failed: " ++ e.message)
  | unmerged {fs : List Finding} {e : Error} (answer : extracted provider draft b = .ok fs)
      (merge : (merged provider draft b fs).1 = .error e) :
      FailsWith provider draft b ("Failed to save opportunities: " ++ e.message)

/-- What is told of a meeting that has been taken in, beside the backend that is left. -/
structure Accounts (provider : Provider) (draft : MeetingDraft) (b : Backend) (r : Report)
    (b' : Backend) : Prop where
  title : r.meeting.title = draft.title
  rawNotes : r.meeting.rawNotes = draft.rawNotes
  source : r.meeting.source = draft.source
  metadata : r.meeting.metadata = draft.metadata
  terminal : r.meeting.status.isTerminal = true
  stored : b'.store.meetings.rows = b.store.meetings.rows ++ [r.meeting]
  done_iff : r.meeting.status = .done ↔
    ∃ fs s, extracted provider draft b = .ok fs ∧ (merged provider draft b fs).1 = .ok s
  done : r.meeting.status = .done → ∀ fs, extracted provider draft b = .ok fs →
    r.opportunitiesCreated = (Merge.proposals fs).length ∧
      r.evidenceAdded = (Quote.telling (fs.flatMap Finding.quotes)).length ∧
      r.evidenceAdded = (b'.store.evidenceFrom r.meeting.id).length
  failed : r.meeting.status ≠ .done →
    r.meeting.status = .failed ∧ r.opportunitiesCreated = 0 ∧ r.evidenceAdded = 0 ∧
      ∃ message, FailsWith provider draft b message ∧
        r.meeting.errorMessage = some (Job.kept message)

theorem rows_replace_last {t : MeetingTable} {rows : List Meeting} {r m : Meeting}
    (last : t.rows = rows ++ [r]) (same : r.id = m.id) : (t.replace m).rows = rows ++ [m] := by
  have distinct := t.nodup
  rw [last, List.map_append, List.nodup_append] at distinct
  have others : rows.map (MeetingTable.replaced m) = rows := by
    refine (List.map_congr_left fun x hx => if_neg ?_).trans (List.map_id rows)
    exact distinct.2.2 x.id (List.mem_map_of_mem hx) m.id (same ▸ List.mem_singleton_self r.id)
  calc (t.replace m).rows
    _ = rows.map (MeetingTable.replaced m) ++ [MeetingTable.replaced m r] := by
      rw [← List.map_singleton, ← List.map_append, ← last]
      rfl
    _ = rows ++ [m] := by rw [others, MeetingTable.replaced, if_pos same]

theorem find?_last {t : MeetingTable} {rows : List Meeting} (last : t.rows = rows ++ [m]) :
    t.find? m.id = some m :=
  Store.find?_key_of_mem t.nodup (last ▸ List.mem_append_right rows (List.mem_singleton_self m))

theorem rows_enrolling (new : b.supply.meeting ∉ b.store.meetings.rows.map Meeting.id) :
    (enrolling draft b).store.meetings.rows = b.store.meetings.rows ++ [enrolled draft b] :=
  MeetingTable.rows_insert_of_notMem new

private theorem closes_of_settles (calm : b.faults = []) (h : Job.Settles provider b m o b') :
    ∃ b₁ status message, (Job.asked b m).Beside b₁ ∧ b' = b₁.moved m status message ∧
      o.recorded? = some (status, message) := by
  have beside : ∀ {fs r b₁}, (Merge.apply m.id fs).run provider (Job.asked b m) = (r, b₁) →
      (Job.asked b m).Beside b₁ := fun {fs r b₁} merge => by
    have beside := Backend.beside_apply (b := Job.asked b m) calm m.id fs provider
    rwa [merge] at beside
  cases h with
  | unanswered answer => exact ⟨_, _, _, .refl calm, rfl, rfl⟩
  | unmerged answer merge | merged answer merge => exact ⟨_, _, _, beside merge, rfl, rfl⟩

private theorem rows_of_settles {rows : List Meeting} (calm : b.faults = [])
    (last : b.store.meetings.rows = rows ++ [m]) (h : Job.Settles provider b m o b') :
    ∃ status message, o.recorded? = some (status, message) ∧ b'.faults = [] ∧
      b'.store.meetings.rows = rows ++ [m.withStatus status message b.now] := by
  obtain ⟨b₁, status, message, beside, rfl, recorded⟩ := closes_of_settles calm h
  have now : b₁.now = b.now := beside.now
  have marked : b₁.store.meetings.rows = rows ++ [Job.marked b m] :=
    (congrArg MeetingTable.rows beside.meetings).trans (rows_replace_last last rfl)
  refine ⟨status, message, recorded, beside.calm, ?_⟩
  rw [← now]
  exact rows_replace_last marked rfl

private theorem evidenceFrom_eq_nil (linked : b.store.Linked) {id : Uuid}
    (new : id ∉ b.store.meetings.rows.map Meeting.id) : b.store.evidenceFrom id = [] := by
  refine List.filter_eq_nil_iff.mpr fun e he => ?_
  rw [decide_eq_true_iff]
  rintro rfl
  exact new (MeetingTable.find?_isSome_iff.mp (linked.meetings e he))

private theorem evidenceFrom_of_ok {fs : List Finding} {s : Merge.Summary} {id : Uuid}
    (ran : (Merge.apply id fs).run provider b = (.ok s, b')) (none : b.store.evidenceFrom id = []) :
    s.created.length = (Merge.proposals fs).length ∧
      s.evidenceAdded = (Quote.telling (fs.flatMap Finding.quotes)).length ∧
      s.evidenceAdded = (b'.store.evidenceFrom id).length := by
  obtain ⟨admits, rfl, r, view, written⟩ := Merge.written_of_ok ran
  obtain ⟨rows, added, due⟩ := written.evidence
  have evidence : b'.store.evidence = b.store.evidence ++ rows :=
    (congrArg View.evidence view).trans added
  have all : rows.filter (fun e => e.meetingId = id) = rows := by
    refine List.filter_eq_self.mpr fun e he => decide_eq_true ?_
    have key : Merge.keyOf e ∈ rows.map Merge.keyOf := List.mem_map_of_mem he
    exact Merge.meeting_of_evidenceDue (due ▸ key)
  have refer : ∀ m, Finding.matched m ∈ fs → ∃ opportunity, m.id? = some opportunity := by
    intro m hm
    obtain ⟨before, after, rfl⟩ := List.append_of_mem hm
    obtain ⟨opportunity, refers, _⟩ := admits.references before m after rfl
    exact ⟨opportunity, refers⟩
  refine ⟨List.length_iterate _ _ _, rfl, ?_⟩
  calc (Quote.telling (fs.flatMap Finding.quotes)).length
    _ = (rows.map Merge.keyOf).length := by rw [due, Merge.length_evidenceDue refer]
    _ = (b.store.evidenceFrom id ++ rows.filter fun e => e.meetingId = id).length := by
      rw [none, all, List.length_map, List.nil_append]
    _ = (b'.store.evidenceFrom id).length := by
      rw [Store.evidenceFrom, Store.evidenceFrom, evidence, List.filter_append]

theorem FailsWith.not_done {message : String} (h : FailsWith provider draft b message) :
    ¬ ∃ fs s, extracted provider draft b = .ok fs ∧ (merged provider draft b fs).1 = .ok s := by
  rintro ⟨fs, s, answer', merge'⟩
  cases h with
  | unanswered answer => cases answer.symm.trans answer'
  | unmerged answer merge =>
    obtain rfl := Except.ok.inj (answer.symm.trans answer')
    cases merge.symm.trans merge'

private theorem accounts_of_settles (calm : b.faults = []) (linked : b.store.Linked)
    (new : b.supply.meeting ∉ b.store.meetings.rows.map Meeting.id)
    (h : Job.Settles provider (enrolling draft b) (enrolled draft b) o b') :
    ∃ final, b'.faults = [] ∧ final.id = b.supply.meeting ∧
      Accounts provider draft b ⟨final, o.counts.1, o.counts.2⟩ b' := by
  obtain ⟨status, message, recorded, calm', rows⟩ :=
    rows_of_settles (b := enrolling draft b) calm (rows_enrolling new) h
  have extracts : ∀ {r}, provider (Job.marked (enrolling draft b) (enrolled draft b))
      (Job.entries (enrolling draft b).store) = r → extracted provider draft b = r := by
    rintro r rfl
    rw [extracted, Job.roster_eq_entries]
    rfl
  have none : (Job.asked (enrolling draft b) (enrolled draft b)).store.evidenceFrom
      b.supply.meeting = [] := evidenceFrom_eq_nil linked new
  -- Each ending of the job decides the status, and so which side of the account there is to give.
  cases h with
  | unanswered answer =>
    have fails : FailsWith provider draft b _ := .unanswered (extracts answer)
    obtain ⟨rfl, rfl⟩ := Prod.mk.inj (Option.some.inj recorded)
    exact ⟨_, calm', rfl, rfl, rfl, rfl, rfl, rfl, rows,
      ⟨nofun, fun done => (fails.not_done done).elim⟩, nofun,
      fun _ => ⟨rfl, rfl, rfl, _, fails, rfl⟩⟩
  | unmerged answer merge =>
    have fails : FailsWith provider draft b _ :=
      .unmerged (extracts answer) (congrArg Prod.fst merge)
    obtain ⟨rfl, rfl⟩ := Prod.mk.inj (Option.some.inj recorded)
    exact ⟨_, calm', rfl, rfl, rfl, rfl, rfl, rfl, rows,
      ⟨nofun, fun done => (fails.not_done done).elim⟩, nofun,
      fun _ => ⟨rfl, rfl, rfl, _, fails, rfl⟩⟩
  | merged answer merge =>
    replace answer := extracts answer
    obtain ⟨rfl, rfl⟩ := Prod.mk.inj (Option.some.inj recorded)
    refine ⟨_, calm', rfl, rfl, rfl, rfl, rfl, rfl, rows, ?_, fun _ fs answer' => ?_,
      fun other => (other rfl).elim⟩
    · exact ⟨fun _ => ⟨_, _, answer, congrArg Prod.fst merge⟩, fun _ => rfl⟩
    · obtain rfl := Except.ok.inj (answer.symm.trans answer')
      have added := evidenceFrom_of_ok merge none
      exact added

theorem answer_createMeeting (calm : b.faults = []) :
    b.answer provider (.createMeeting draft) = (.ok (enrolled draft b), enrolling draft b) := by
  rw [Backend.answer_of_faultless calm]
  rfl

/-- A meeting that is stored when nothing disturbs the calls has a job that ends, and can be fetched
then. -/
theorem exists_prospect (provider : Provider) (draft : MeetingDraft) (calm : b.faults = [])
    (linked : b.store.Linked) (new : b.supply.meeting ∉ b.store.meetings.rows.map Meeting.id)
    (few : settings.workerCount ≤ 254) :
    ∃ g : Prospect provider, g.crew = max settings.workerCount 1 ∧
      g.meeting = b.supply.meeting ∧ g.stored = enrolling draft b ∧
      Accounts provider draft b g.report g.ending := by
  have found : (enrolling draft b).store.meetings.find? (enrolled draft b).id =
      some (enrolled draft b) := find?_last (rows_enrolling new)
  obtain ⟨o, ending, runs, works⟩ := Job.run_process_of_open (b := enrolling draft b) calm found rfl
    provider
  obtain ⟨final, calm', same, accounts⟩ := accounts_of_settles calm linked new works.settles
  have fetches : Attempt.run provider (Call.fetchMeeting b.supply.meeting).attempt ending =
      (.ok final, ending) := by
    rw [Attempt.run_attempt, Backend.answer_of_faultless calm', ← same]
    simp only [Backend.perform, Store.fetchMeeting, find?_last accounts.stored]
  exact ⟨⟨max settings.workerCount 1, by omega, by omega, b.supply.meeting, _, o, ending, runs,
    final, fetches⟩, rfl, rfl, rfl, accounts⟩

section Whole

variable {g : Prospect provider}

private theorem begun_eq (calm : b.faults = []) :
    Intake.begun provider settings draft b =
      ⟨⟨(Pool.new settings).start, enrolling draft b, .absent⟩, .offering b.supply.meeting⟩ := by
  rw [Intake.begun, Attempt.run_attempt, answer_createMeeting calm]
  rfl

private theorem workers_start : (Pool.new settings).start.workers =
    List.replicate (max settings.workerCount 1) .starting := rfl

private theorem proceeds_begun (calm : b.faults = []) (crew : g.crew = max settings.workerCount 1)
    (meeting : g.meeting = b.supply.meeting) (stored : g.stored = enrolling draft b) :
    g.Proceeds (Intake.begun provider settings draft b) := by
  have starting : ∀ φ ∈ (Pool.new settings).start.workers, φ = .starting := fun φ hφ =>
    List.eq_of_mem_replicate (workers_start ▸ hφ)
  have idle : ∀ φ ∈ (Pool.new settings).start.workers, φ.inFlight? = none := fun φ hφ => by
    rw [starting φ hφ]
    rfl
  rw [begun_eq calm, ← meeting]
  refine .offering ⟨rfl, rfl, rfl, ?_, fun φ hφ => ?_⟩ ?_ rfl (Pool.owed_of_idle rfl idle)
    stored.symm ?_ nofun
  · rw [crew]
    exact List.length_replicate
  · rw [starting φ hφ]
    rfl
  · exact Nat.lt_of_lt_of_le Nat.one_pos (Nat.le_max_right _ 1)
  · change 0 + (2 * 0 +
      ((List.replicate (max settings.workerCount 1) Phase.starting).map Phase.news).sum) = g.crew
    simp [Phase.news, crew]

private theorem await_eq {p : Pool} {waitMs : Nat} (waits : waitMs ≠ 0)
    (workers : p.workers = List.replicate g.crew .starting) (buffer : p.buffer = [g.meeting])
    (isOpen : p.isOpen = true) (unsignalled : p.isSignalled = false) (events : p.events = []) :
    await provider p g.meeting waitMs g.stored = (.ok g.report, g.ending) := by
  obtain ⟨n, manned⟩ := Nat.exists_eq_succ_of_ne_zero (Nat.ne_zero_of_lt g.manned)
  obtain ⟨q, advanced, rest, told, others⟩ :=
    Pool.advanceAll_of_fresh (manned ▸ workers) buffer isOpen unsignalled events g.runs
  have untold : ∀ e ∈ [Pool.Event.workerStarted 0, .jobStarted g.meeting 0],
      e.counts? g.meeting = none := by simp [Pool.Event.counts?]
  have few : rest.length < Pool.channelCapacity := by
    have := g.few
    rw [others, Pool.channelCapacity]
    omega
  have heard : Pool.awaitJob g.meeting q.events 0 = .ok g.outcome.counts := by
    rw [told]
    exact Pool.awaitJob_of_kept untold (Pool.Event.counts?_ofOutcome g.meeting g.outcome) few
  simp only [await, if_neg waits, advanced, heard, g.fetches]
  rfl

private theorem run_eq (calm : b.faults = []) (crew : g.crew = max settings.workerCount 1)
    (meeting : g.meeting = b.supply.meeting) (stored : g.stored = enrolling draft b) {waitMs : Nat}
    (waits : waitMs ≠ 0) :
    run provider settings draft waitMs b = (.ok g.report, g.ending) := by
  have isOpen : (Pool.new settings).start.isOpen = true := rfl
  have tracked : (Pool.new settings).start.tracked = [] := rfl
  have buffer : (Pool.new settings).start.buffer = [] := rfl
  have room : 0 < (Pool.new settings).start.settings.bufferSize :=
    Nat.lt_of_lt_of_le Nat.one_pos (Nat.le_max_right _ 1)
  have accepted : (Pool.new settings).start.enqueue b.supply.meeting = (.enqueued,
      { (Pool.new settings).start with
        buffer := [b.supply.meeting], tracked := [b.supply.meeting] }) := by
    simp [Pool.enqueue, isOpen, tracked, buffer, room]
  rw [run, Attempt.run_attempt, answer_createMeeting calm]
  simp only [show (enrolled draft b).id = b.supply.meeting from rfl, accepted]
  rw [← meeting, ← stored]
  refine await_eq waits ?_ rfl rfl rfl rfl
  rw [crew]
  rfl

end Whole

/-- From here on the caller is never told that the meeting was not accepted, gets no result but one
report with one backend, and gets that sooner or later, in whatever order there are turns. -/
structure Delivers (provider : Provider) (i : Intake) (r : Report) (b' : Backend) : Prop where
  accepted : ∀ turns id failure, (i.run provider turns).caller ≠ .stopping id (.error failure)
  agrees : ∀ turns result, (i.run provider turns).caller = .returned result →
    result = .ok r ∧ (i.run provider turns).world.backend = b'
  ends : ∀ schedule, Lively provider i schedule →
    ∃ n, (i.after provider schedule n).caller = .returned (.ok r)

private theorem delivers_of_proceeds {g : Prospect provider} {i : Intake} (h : g.Proceeds i) :
    Delivers provider i g.report g.ending := by
  have returns : ∀ {j : Intake}, g.Proceeds j → ∀ result, j.caller = .returned result →
      result = .ok g.report ∧ j.world.backend = g.ending := by
    rintro j proceeds result returned
    cases proceeds with
    | returned owed backend =>
      cases returned
      exact ⟨rfl, backend⟩
    | offering | listening | stopping => cases returned
  refine ⟨fun turns id failure stops => ?_, fun turns => returns (h.run turns),
    fun schedule lively => ?_⟩
  · have proceeds := h.run turns
    generalize i.run provider turns = j at proceeds stops
    cases proceeds with
    | offering | listening | stopping | returned => cases stops
  · obtain ⟨n, result, returned⟩ := h.returns lively
    obtain ⟨rfl, _⟩ := returns (h.after schedule n) result returned
    exact ⟨n, returned⟩

/-- Where nothing disturbs it, whoever takes a meeting in gets a report, and the same one in
whatever order the workers get their turns. -/
theorem delivers_begun (provider : Provider) (draft : MeetingDraft) (calm : b.faults = [])
    (reachable : b.store.Reachable) (new : b.supply.meeting ∉ b.store.meetings.rows.map Meeting.id)
    (few : settings.workerCount ≤ 254) :
    ∃ r b', Accounts provider draft b r b' ∧
      Delivers provider (Intake.begun provider settings draft b) r b' ∧
      ∀ waitMs, waitMs ≠ 0 → run provider settings draft waitMs b = (.ok r, b') := by
  obtain ⟨g, crew, meeting, stored, accounts⟩ :=
    exists_prospect provider draft calm reachable.linked new few
  exact ⟨g.report, g.ending, accounts,
    delivers_of_proceeds (proceeds_begun calm crew meeting stored),
    fun waitMs waits => run_eq calm crew meeting stored waits⟩

def furtherNotes : MeetingDraft := ⟨"Second call", "It took weeks. Twice this year.", .manual, none⟩

theorem delivers_heard :
    ∃ r b', Accounts (fun _ _ => .ok Merge.heard) furtherNotes Merge.stocked r b' ∧
      r.meeting.status = .done ∧ r.opportunitiesCreated = 1 ∧ r.evidenceAdded = 2 ∧
      ∃ schedule n,
        ((Intake.begun (fun _ _ => .ok Merge.heard) ⟨0, 0, 0⟩ furtherNotes Merge.stocked).after
          (fun _ _ => .ok Merge.heard) schedule n).caller = .returned (.ok r) := by
  have few : (⟨0, 0, 0⟩ : Pool.Settings).workerCount ≤ 254 := by decide
  obtain ⟨r, b', accounts, delivers, _⟩ := delivers_begun (b := Merge.stocked)
    (fun _ _ => .ok Merge.heard) furtherNotes rfl Merge.reachable_stocked (by decide +kernel) few
  have merges : (merged (fun _ _ => .ok Merge.heard) furtherNotes Merge.stocked Merge.heard).1 =
      .ok ⟨[Uuid.next default], [default], 2, 1⟩ := by decide +kernel
  have done := accounts.done_iff.mpr ⟨_, _, rfl, merges⟩
  obtain ⟨created, added, _⟩ := accounts.done done _ rfl
  obtain ⟨schedule, fair⟩ := exists_fair
  obtain ⟨n, returned⟩ := delivers.ends schedule (fair.lively _)
  exact ⟨r, b', accounts, done, created, added.trans (by decide +kernel), schedule, n, returned⟩

end Ingest

end MeetingInsights
