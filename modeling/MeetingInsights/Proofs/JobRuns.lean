import MeetingInsights.Proofs.AttemptRuns
import MeetingInsights.Proofs.StatusTransitions

/-! # The run of one job

What a job comes to that runs alone and without faults, and what it leaves. It is skipped, or it ends
before the provider is asked and changes nothing, or it asks once. Then the answer, and what the merge
makes of it, decide how the meeting is closed.
-/

namespace MeetingInsights

namespace Backend

variable {b b' : Backend} {m r : Meeting} {provider : Provider}

/-- The backend once a stored meeting has got a status and a message. -/
def moved (b : Backend) (m : Meeting) (status : Status) (message : Option String) : Backend :=
  { b with store := { b.store with
      meetings := b.store.meetings.replace (m.withStatus status message b.now) } }

theorem answer_updateStatus_of_open (calm : b.faults = [])
    (found : b.store.meetings.find? m.id = some m) (isOpen : m.status.isTerminal = false)
    (status : Status) (message : Option String) :
    b.answer provider (.updateStatus m.id status message) = (.ok (), b.moved m status message) := by
  rw [answer_of_faultless calm]
  simp [perform, Store.updateStatus, found, isOpen, moved]

theorem answer_updateStatus_of_missing (calm : b.faults = []) {id : Uuid}
    (missing : b.store.meetings.find? id = none) (status : Status) (message : Option String) :
    b.answer provider (.updateStatus id status message) = (.error (.meetingNotFound id), b) := by
  rw [answer_of_faultless calm]
  simp [perform, Store.updateStatus, missing]

theorem find?_moved (found : b.store.meetings.find? m.id = some r) (status : Status)
    (message : Option String) :
    (b.moved m status message).store.meetings.find? m.id =
      some (m.withStatus status message b.now) := by
  have same := MeetingTable.find?_eq_some found
  rw [moved, MeetingTable.find?_replace, found]
  simp [MeetingTable.replaced, Meeting.withStatus, same]

/-- Another backend after work that has left the meetings alone and asked nothing about them. -/
structure Beside (b b' : Backend) : Prop where
  calm : b'.faults = []
  now : b'.now = b.now
  meetings : b'.store.meetings = b.store.meetings
  consultations : b'.consultations = b.consultations

theorem Beside.refl (calm : b.faults = []) : b.Beside b := ⟨calm, rfl, rfl, rfl⟩

theorem clock_perform (b : Backend) (provider : Provider) {c : Call}
    (unasked : ∀ m roster, c ≠ .extract m roster) :
    (b.perform provider c).2.now = b.now ∧
      (b.perform provider c).2.consultations = b.consultations := by
  cases c with
  | updateStatus id status message =>
    simp only [perform]
    cases b.store.updateStatus id status message b.now <;> exact ⟨rfl, rfl⟩
  | createOpportunity draft =>
    simp only [perform]
    cases b.store.createOpportunity draft b.supply.opportunity b.now <;> exact ⟨rfl, rfl⟩
  | createTheme name =>
    simp only [perform]
    cases b.store.createTheme name b.supply.theme b.now <;> exact ⟨rfl, rfl⟩
  | addEvidence draft =>
    simp only [perform]
    cases b.store.addEvidence draft b.supply.evidence b.now <;> exact ⟨rfl, rfl⟩
  | extract m roster => exact (unasked m roster rfl).elim
  | createMeeting | fetchMeeting | idsByStatus | roster | findTheme => exact ⟨rfl, rfl⟩

theorem Beside.answer (h : b.Beside b') {meeting : Uuid} {c : Call} (hc : c.IsMergeOf meeting) :
    b.Beside (b'.answer provider c).2 := by
  rw [answer_of_faultless h.calm]
  obtain ⟨now, consultations⟩ := b'.clock_perform provider (c := c) fun m roster e => by
    subst e
    exact hc
  have meetings : (b'.perform provider c).2.store.meetings = b'.store.meetings :=
    meetings_perform (fun draft e => by subst e; exact hc) fun id status message e => by
      subst e
      exact hc
  exact ⟨(faults_perform c).trans h.calm, now.trans h.now, meetings.trans h.meetings,
    consultations.trans h.consultations⟩

theorem beside_apply (calm : b.faults = []) (meeting : Uuid) (fs : List Finding)
    (provider : Provider) : b.Beside ((Merge.apply meeting fs).run provider b).2 := by
  have calls : (Merge.apply meeting fs).Calls (Call.IsMergeOf meeting) := fun _ _ h =>
    (Merge.records_apply h).calls
  exact calls.run_keeps (fun _ _ hc h => h.answer hc) (.refl calm)

end Backend

namespace Job

/-- The message that is kept of a failure: all of it up to 200 characters, and of a longer one the
first 197 and three dots. -/
def kept (message : String) : String :=
  if message.length ≤ 200 then message else String.ofList (message.toList.take 197) ++ "..."

/-- The status and the message that a job leaves with its meeting. -/
def Outcome.recorded? : Outcome → Option (Status × Option String)
  | .done _ => some (.done, none)
  | .failed message => some (.failed, some (kept message))
  | .skipped => none

/-- The meeting as the provider sees it. -/
def marked (b : Backend) (m : Meeting) : Meeting := m.withStatus .processing none b.now

/-- One entry for each opportunity, in the order of their creation. -/
def entries (s : Store) : List RosterEntry :=
  s.opportunities.map fun o => ⟨o.id, o.struggle, s.themeNameOf o⟩

/-- The backend once the meeting is marked and the provider has been asked. -/
def asked (b : Backend) (m : Meeting) : Backend :=
  { b.moved m .processing none with
    consultations := b.consultations ++ [⟨marked b m, entries b.store⟩] }

/-- The outcome of a job that has asked the provider, with the backend that it leaves. -/
inductive Settles (provider : Provider) (b : Backend) (m : Meeting) : Outcome → Backend → Prop where
  | unanswered {e : Error} (answer : provider (marked b m) (entries b.store) = .error e) :
      Settles provider b m (.failed ("AI extraction failed: " ++ e.message))
        ((asked b m).moved m .failed (some (kept ("AI extraction failed: " ++ e.message))))
  | unmerged {findings : List Finding} {e : Error} {b' : Backend}
      (answer : provider (marked b m) (entries b.store) = .ok findings)
      (merge : (Merge.apply m.id findings).run provider (asked b m) = (.error e, b')) :
      Settles provider b m (.failed ("Failed to save opportunities: " ++ e.message))
        (b'.moved m .failed (some (kept ("Failed to save opportunities: " ++ e.message))))
  | merged {findings : List Finding} {s : Merge.Summary} {b' : Backend}
      (answer : provider (marked b m) (entries b.store) = .ok findings)
      (merge : (Merge.apply m.id findings).run provider (asked b m) = (.ok s, b')) :
      Settles provider b m (.done s) (b'.moved m .done none)

/-- What a job does that is neither refused nor without a meeting: it asks once, and what the meeting
records at the end agrees with what the job reports. -/
structure Works (provider : Provider) (b : Backend) (m : Meeting) (o : Outcome) (b' : Backend) :
    Prop where
  settles : Settles provider b m o b'
  asksOnce : b'.consultations = b.consultations ++ [⟨marked b m, entries b.store⟩]
  records : b'.store.meetingStatus? m.id = o.recorded?

variable {b b' : Backend} {m : Meeting} {provider : Provider}

theorem roster_eq_entries (s : Store) : s.roster = entries s := by
  simp [Store.roster, Store.describedOpportunities, Store.describe, Opportunity.rosterEntry, entries]

section Closing

variable (found : b.store.meetings.find? m.id = some m)
include found

theorem find?_asked (h : (asked b m).Beside b') :
    b'.store.meetings.find? m.id = some (marked b m) := by
  rw [h.meetings]
  exact Backend.find?_moved found .processing none

private theorem answer_close (h : (asked b m).Beside b') (status : Status)
    (message : Option String) : b'.answer provider (.updateStatus m.id status message) =
      (.ok (), b'.moved m status message) := by
  have closed : b'.answer provider (.updateStatus (marked b m).id status message) =
      (.ok (), b'.moved (marked b m) status message) :=
    Backend.answer_updateStatus_of_open h.calm (find?_asked found h) rfl status message
  have again : (marked b m).withStatus status message b'.now = m.withStatus status message b'.now :=
    rfl
  rw [Backend.moved, again] at closed
  exact closed

theorem run_close (h : (asked b m).Beside b') (status : Status) (message : Option String)
    (o : Outcome) :
    Program.run provider (.call (.updateStatus m.id status message) fun _ => .done o) b' =
      (o, b'.moved m status message) := by
  rw [Program.run_call, answer_close found h, Program.run_done]

theorem run_giveUp (h : (asked b m).Beside b') {stage : Stage} {e : Error} {message : String}
    (told : stage.failure e = message) :
    (giveUp m.id stage e).run provider b' =
      (.failed message, b'.moved m .failed (some (kept message))) := by
  subst told
  exact run_close found h .failed (some (kept (stage.failure e))) _

private theorem run_finish (h : (asked b m).Beside b') (s : Merge.Summary) :
    (finish m.id s).run provider b' = (.done s, b'.moved m .done none) :=
  run_close found h .done none _

theorem works (h : (asked b m).Beside b') {o : Outcome} {status : Status}
    {message : Option String} (due : o.recorded? = some (status, message))
    (settles : Settles provider b m o (b'.moved m status message)) :
    Works provider b m o (b'.moved m status message) where
  settles := settles
  asksOnce := h.consultations
  records := by
    rw [due, Store.meetingStatus?, Backend.find?_moved (find?_asked found h)]
    rfl

end Closing

private theorem failure_extraction (e : Error) :
    Stage.extraction.failure e = "AI extraction failed: " ++ e.message :=
  congrArg (· ++ e.message) (by decide : "AI extraction failed" ++ ": " = "AI extraction failed: ")

private theorem failure_saving (e : Error) :
    Stage.saving.failure e = "Failed to save opportunities: " ++ e.message :=
  congrArg (· ++ e.message)
    (by decide : "Failed to save opportunities" ++ ": " = "Failed to save opportunities: ")

private theorem failure_loading (id : Uuid) :
    Stage.loading.failure (.meetingNotFound id) =
      "Failed to load meeting: Meeting not found: " ++ id.toText := by
  have label : "Failed to load meeting" ++ ": " ++ "Meeting not found: " =
      "Failed to load meeting: Meeting not found: " := by decide
  rw [← label, String.append_assoc]
  rfl

theorem run_process_of_unrefused {id : Uuid} {r : Except Error Unit}
    (begun : b.answer provider (beginCall id) = (r, b')) (unrefused : isRefusal r = false) :
    (process id).run provider b = (advance id).run provider b' := by
  change Program.run provider (.call (beginCall id) fun r =>
    if isRefusal r then .done .skipped else advance id) b = _
  rw [Program.run_call, begun, unrefused]
  rfl

theorem run_advance {id : Uuid} {r : Except Error (Meeting × List RosterEntry)}
    (loaded : (load id).run provider b = (r, b)) :
    (advance id).run provider b =
      (match r with
        | .ok (meeting, roster) => consult id meeting roster
        | .error e => giveUp id .loading e).run provider b := by
  unfold Attempt.run at loaded
  rcases r with e | ⟨meeting, roster⟩ <;> simp only [advance, Program.run_bind, loaded]

private theorem run_process_of_missing (calm : b.faults = []) {id : Uuid}
    (missing : b.store.meetings.find? id = none) (provider : Provider) :
    (process id).run provider b =
      (.failed ("Failed to load meeting: Meeting not found: " ++ id.toText), b) := by
  have unmarked : b.answer provider (beginCall id) = (.error (.meetingNotFound id), b) :=
    Backend.answer_updateStatus_of_missing calm missing .processing none
  have unloaded : (load id).run provider b = (.error (.meetingNotFound id), b) := by
    refine Attempt.run_bind_of_error (t := (Call.fetchMeeting id).attempt) ?_ _
    rw [Attempt.run_attempt, Backend.answer_of_faultless calm]
    simp [Backend.perform, Store.fetchMeeting, missing]
  rw [run_process_of_unrefused unmarked rfl, run_advance unloaded, ← failure_loading]
  change Program.run provider (.call (.updateStatus id .failed _) fun _ => .done _) b = _
  rw [Program.run_call, Backend.answer_updateStatus_of_missing calm missing, Program.run_done]

private theorem run_consult (calm : b.faults = []) :
    (consult m.id (marked b m) (entries b.store)).run provider (b.moved m .processing none) =
      (match provider (marked b m) (entries b.store) with
        | .ok findings => save m.id findings
        | .error e => giveUp m.id .extraction e).run provider (asked b m) := by
  have answered : Attempt.run provider (Call.extract (marked b m) (entries b.store)).attempt
      (b.moved m .processing none) = (provider (marked b m) (entries b.store), asked b m) := by
    rw [Attempt.run_attempt, Backend.answer_of_faultless (by exact calm)]
    rfl
  unfold Attempt.run at answered
  simp only [consult, Program.run_bind, answered]
  cases provider (marked b m) (entries b.store) <;> rfl

theorem run_save {id : Uuid} {findings : List Finding} {r : Except Error Merge.Summary}
    (merge : (Merge.apply id findings).run provider b = (r, b')) :
    (save id findings).run provider b =
      (match r with
        | .ok summary => finish id summary
        | .error e => giveUp id .saving e).run provider b' := by
  unfold Attempt.run at merge
  cases r <;> simp only [save, Program.run_bind, merge]

private theorem run_consult_of_found (calm : b.faults = [])
    (found : b.store.meetings.find? m.id = some m) (provider : Provider) :
    ∃ o b', (consult m.id (marked b m) (entries b.store)).run provider (b.moved m .processing none) =
        (o, b') ∧ Works provider b m o b' := by
  rw [run_consult calm]
  cases answer : provider (marked b m) (entries b.store) with
  | error e =>
    have untouched : (asked b m).Beside (asked b m) := .refl calm
    exact ⟨_, _, run_giveUp found untouched (failure_extraction e),
      works found untouched rfl (.unanswered answer)⟩
  | ok findings =>
    have beside := Backend.beside_apply (b := asked b m) calm m.id findings provider
    cases merge : (Merge.apply m.id findings).run provider (asked b m) with
    | mk r b' =>
      rw [merge] at beside
      have saved := run_save merge
      cases r with
      | error e =>
        exact ⟨_, _, saved.trans (run_giveUp found beside (failure_saving e)),
          works found beside rfl (.unmerged answer merge)⟩
      | ok s =>
        exact ⟨_, _, saved.trans (run_finish found beside s),
          works found beside rfl (.merged answer merge)⟩

private theorem run_load (calm : b.faults = []) (found : b.store.meetings.find? m.id = some m)
    (provider : Provider) :
    (load m.id).run provider (b.moved m .processing none) =
      (.ok (marked b m, entries b.store), b.moved m .processing none) := by
  have fetched : (b.moved m .processing none).answer provider (.fetchMeeting m.id) =
      (.ok (marked b m), b.moved m .processing none) := by
    rw [Backend.answer_of_faultless (by exact calm)]
    simp [Backend.perform, Store.fetchMeeting, Backend.find?_moved found, marked]
  have listed : (b.moved m .processing none).answer provider .roster =
      (.ok (entries b.store), b.moved m .processing none) := by
    rw [Backend.answer_of_faultless (by exact calm), Backend.perform, roster_eq_entries]
    rfl
  rw [load, Attempt.run_bind_of_ok (t := (Call.fetchMeeting m.id).attempt) fetched,
    Attempt.run_bind_of_ok (t := Call.roster.attempt) listed, Attempt.run_pure]

theorem run_process_of_open (calm : b.faults = []) (found : b.store.meetings.find? m.id = some m)
    (isOpen : m.status.isTerminal = false) (provider : Provider) :
    ∃ o b', (process m.id).run provider b = (o, b') ∧ Works provider b m o b' := by
  have begun : b.answer provider (beginCall m.id) = (.ok (), b.moved m .processing none) :=
    Backend.answer_updateStatus_of_open calm found isOpen .processing none
  rw [run_process_of_unrefused begun rfl, run_advance (run_load calm found provider)]
  exact run_consult_of_found calm found provider

/-- What a job comes to that nothing disturbs. The job of a meeting in a terminal status and the one
of a meeting that is not stored change nothing, and nobody is asked. Any other job does its work. -/
theorem run_process (calm : b.faults = []) (id : Uuid) (provider : Provider) :
    (∀ m, b.store.meetings.find? id = some m → m.status.isTerminal = true →
      (process id).run provider b = (.skipped, b)) ∧
    (b.store.meetings.find? id = none → (process id).run provider b =
      (.failed ("Failed to load meeting: Meeting not found: " ++ id.toText), b)) ∧
    ∀ m, b.store.meetings.find? id = some m → m.status.isTerminal = false →
      ∃ o b', (process id).run provider b = (o, b') ∧ Works provider b m o b' := by
  refine ⟨fun m found terminal => ?_, fun missing => ?_, fun m found isOpen => ?_⟩
  · exact run_process_of_terminal calm (Store.statusOf?_eq_some.mpr ⟨m, found, rfl⟩) terminal provider
  · exact run_process_of_missing calm missing provider
  · obtain rfl := MeetingTable.find?_eq_some found
    exact run_process_of_open calm found isOpen provider

def unavailable : Provider := fun _ _ => .error (.extraction "no answer")

theorem recorded_of_unavailable :
    ∃ o b', (process ⟨1⟩).run unavailable .oneQueued = (o, b') ∧
      b'.store.meetingStatus? ⟨1⟩ =
        some (.failed, some "AI extraction failed: Extraction error: no answer") := by
  obtain ⟨_, _, runs⟩ := run_process (b := .oneQueued) rfl ⟨1⟩ unavailable
  obtain ⟨m, found, queued⟩ := Store.statusOf?_eq_some.mp
    (show Backend.oneQueued.store.statusOf? ⟨1⟩ = some .queued by decide)
  obtain ⟨o, b', run, works⟩ := runs m found (by rw [queued]; rfl)
  have records := works.records
  rw [MeetingTable.find?_eq_some found] at records
  refine ⟨o, b', run, records.trans ?_⟩
  cases works.settles with
  | unanswered answer =>
    cases answer
    decide +kernel
  | unmerged answer => cases answer
  | merged answer => cases answer

end Job

end MeetingInsights
