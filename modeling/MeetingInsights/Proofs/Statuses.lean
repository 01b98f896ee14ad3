import MeetingInsights.Backend

/-! # Statuses of stored meetings

What one call does to the status of a meeting. Only an update that is answered with success changes
one: a disturbed call leaves the whole store as it is, and so does a refused one.
-/

namespace MeetingInsights

namespace MeetingTable

theorem find?_eq_some {t : MeetingTable} {id : Uuid} {m : Meeting} (h : t.find? id = some m) :
    m.id = id := by simpa using List.find?_some h

theorem find?_replace (t : MeetingTable) (m : Meeting) (id : Uuid) :
    (t.replace m).find? id = (t.find? id).map (replaced m) := by
  unfold find? replace
  rw [List.find?_map]
  congr 2
  funext r
  simp [id_replaced]

end MeetingTable

namespace Store

def statusOf? (s : Store) (id : Uuid) : Option Status := (s.meetings.find? id).map Meeting.status

theorem statusOf?_eq_some {s : Store} {id : Uuid} {status : Status} :
    s.statusOf? id = some status ↔ ∃ m, s.meetings.find? id = some m ∧ m.status = status :=
  Option.map_eq_some_iff

theorem fetchMeeting_eq_ok {s : Store} {id : Uuid} {m : Meeting} (h : s.fetchMeeting id = .ok m) :
    s.meetings.find? id = some m := by
  unfold fetchMeeting at h
  split at h
  · cases h
    assumption
  · cases h

/-- An update succeeds on a meeting that is not terminal, and moves this meeting only. -/
theorem updateStatus_eq_ok {s t : Store} {id : Uuid} {status : Status} {message : Option String}
    {now : Timestamp} (h : s.updateStatus id status message now = .ok t) :
    (∃ old, s.statusOf? id = some old ∧ old.isTerminal = false) ∧
      (∀ j, t.statusOf? j = if j = id then some status else s.statusOf? j) ∧
      t = { s with meetings := t.meetings } := by
  unfold updateStatus at h
  split at h
  · cases h
  · rename_i m hm
    have hid := MeetingTable.find?_eq_some hm
    split at h
    · cases h
    · rename_i hterm
      cases h
      refine ⟨⟨m.status, statusOf?_eq_some.mpr ⟨m, hm, rfl⟩, by simpa using hterm⟩, fun j => ?_, rfl⟩
      simp only [statusOf?, MeetingTable.find?_replace, Option.map_map]
      by_cases hj : j = id
      · subst hj
        simp [hm, MeetingTable.replaced, Meeting.withStatus]
      · rw [if_neg hj]
        cases hf : s.meetings.find? j with
        | none => rfl
        | some r =>
          have hr := MeetingTable.find?_eq_some hf
          have hne : r.id ≠ m.id := fun he => hj (hr ▸ hid ▸ he)
          simp [MeetingTable.replaced, Meeting.withStatus, hne]

/-- An update fails when the meeting is missing or terminal; of a terminal one it is refused. -/
theorem updateStatus_eq_error {s : Store} {id : Uuid} {status : Status} {message : Option String}
    {now : Timestamp} {e : Error} (h : s.updateStatus id status message now = .error e) :
    s.statusOf? id = none ∨ ∃ old, s.statusOf? id = some old ∧ old.isTerminal = true ∧
      e = refusedTransition id old status := by
  unfold updateStatus at h
  split at h
  · exact .inl (by simp [statusOf?, *])
  · rename_i m hm
    split at h
    · cases h
      exact .inr ⟨m.status, statusOf?_eq_some.mpr ⟨m, hm, rfl⟩, by assumption, rfl⟩
    · cases h

end Store

namespace Backend

variable {b : Backend} {provider : Provider}

theorem perform_withFaults (b : Backend) (provider : Provider) (faults : List Fault) (c : Call) :
    ({ b with faults }).perform provider c =
      ((b.perform provider c).1, { (b.perform provider c).2 with faults }) := by
  cases c with
  | updateStatus id status message =>
    simp only [perform]
    cases b.store.updateStatus id status message b.now <;> rfl
  | createOpportunity draft =>
    simp only [perform]
    cases b.store.createOpportunity draft b.supply.opportunity b.now <;> rfl
  | createTheme name =>
    simp only [perform]
    cases b.store.createTheme name b.supply.theme b.now <;> rfl
  | addEvidence draft =>
    simp only [perform]
    cases b.store.addEvidence draft b.supply.evidence b.now <;> rfl
  | createMeeting | fetchMeeting | idsByStatus | roster | findTheme | extract => rfl

theorem exists_strike_eq (b : Backend) (c : Call) : ∃ faults, (b.strike c).2 = { b with faults } := by
  unfold strike
  split
  · exact ⟨_, rfl⟩
  · exact ⟨b.faults, rfl⟩

/-- A call is disturbed, and then only some faults are used up and what is not a search for a theme
has failed, or it is performed. -/
theorem answer_cases (b : Backend) (provider : Provider) (c : Call) :
    (∃ faults, (b.answer provider c).2 = { b with faults } ∧
      ((∃ e, (b.answer provider c).1 = .error e) ∨ ∃ name, c = .findTheme name)) ∨
      ∃ faults, b.answer provider c =
        ((b.perform provider c).1, { (b.perform provider c).2 with faults }) := by
  obtain ⟨faults, hs⟩ := b.exists_strike_eq c
  unfold answer
  simp only [hs]
  cases hd : (b.strike c).1.bind fun d => disturbed? d c with
  | none => exact .inr ⟨faults, perform_withFaults b provider faults c⟩
  | some r =>
    refine .inl ⟨faults, rfl, ?_⟩
    obtain ⟨d, _, hr⟩ := Option.bind_eq_some_iff.mp hd
    cases d with
    | failure e => exact .inl ⟨e, (Option.some.inj hr).symm⟩
    | nothingFound =>
      cases c with
      | findTheme name => exact .inr ⟨name, rfl⟩
      | createMeeting | fetchMeeting | updateStatus | idsByStatus | createOpportunity | roster
      | createTheme | addEvidence | extract => cases hr

theorem answer_of_faultless (h : b.faults = []) (c : Call) :
    b.answer provider c = b.perform provider c := by
  have hs : b.strike c = (none, b) := by
    unfold strike
    cases c.operation? with
    | none => rfl
    | some op =>
      simp only [h, Fault.strike_nil]
      rw [← h]
  simp [answer, hs]

theorem faults_perform (c : Call) : (b.perform provider c).2.faults = b.faults := by
  have h := perform_withFaults b provider b.faults c
  exact (congrArg (fun x => x.2.faults) h : _)

theorem meetings_perform {c : Call} (hcreate : ∀ draft, c ≠ .createMeeting draft)
    (hupdate : ∀ id status message, c ≠ .updateStatus id status message) :
    (b.perform provider c).2.store.meetings = b.store.meetings := by
  cases c with
  | createMeeting draft => exact (hcreate draft rfl).elim
  | updateStatus id status message => exact (hupdate id status message rfl).elim
  | createOpportunity draft =>
    simp only [perform, Store.createOpportunity]
    split <;> rename_i h <;> split at h <;> cases h <;> rfl
  | createTheme name =>
    simp only [perform, Store.createTheme]
    split <;> rename_i h <;> split at h <;> cases h <;> rfl
  | addEvidence draft =>
    simp only [perform, Store.addEvidence]
    split <;> rename_i h <;> split at h <;> try split at h
    all_goals cases h <;> rfl
  | fetchMeeting | idsByStatus | roster | findTheme | extract => rfl

/-- An update that fails leaves the store alone; one that succeeds moves its meeting on from a
status that is not terminal. -/
theorem answer_updateStatus (b : Backend) (provider : Provider) (id : Uuid) (status : Status)
    (message : Option String) :
    ((∃ e, (b.answer provider (.updateStatus id status message)).1 = .error e) ∧
        (b.answer provider (.updateStatus id status message)).2.store = b.store) ∨
      ((b.answer provider (.updateStatus id status message)).1 = .ok () ∧
        (∃ old, b.store.statusOf? id = some old ∧ old.isTerminal = false) ∧
        ∀ j, (b.answer provider (.updateStatus id status message)).2.store.statusOf? j =
          if j = id then some status else b.store.statusOf? j) := by
  rcases answer_cases b provider (.updateStatus id status message) with
    ⟨faults, hb, he | ⟨name, hc⟩⟩ | ⟨faults, h⟩
  · exact .inl ⟨he, by rw [hb]⟩
  · cases hc
  · rw [h]
    simp only [perform]
    cases hu : b.store.updateStatus id status message b.now with
    | error e => exact .inl ⟨⟨e, rfl⟩, rfl⟩
    | ok store =>
      obtain ⟨hold, hnew, _⟩ := Store.updateStatus_eq_ok hu
      exact .inr ⟨rfl, hold, hnew⟩

theorem answer_updateStatus_of_terminal (hb : b.faults = []) {id : Uuid} {s : Status}
    (hs : b.store.statusOf? id = some s) (hterm : s.isTerminal = true) (status : Status)
    (message : Option String) :
    b.answer provider (.updateStatus id status message) =
      (.error (Store.refusedTransition id s status), b) := by
  obtain ⟨m, hm, rfl⟩ := Store.statusOf?_eq_some.mp hs
  rw [answer_of_faultless hb]
  simp [perform, Store.updateStatus, hm, hterm]

/-- Without faults the update of a stored meeting to a terminal status leaves it terminal, by this
update or by one before. -/
theorem isTerminal_answer_updateStatus (hb : b.faults = []) {id : Uuid} {s status : Status}
    (hs : b.store.statusOf? id = some s) (hterm : status.isTerminal = true)
    (message : Option String) :
    ∃ t, (b.answer provider (.updateStatus id status message)).2.store.statusOf? id = some t ∧
      t.isTerminal = true := by
  cases hold : s.isTerminal with
  | true =>
    rw [answer_updateStatus_of_terminal hb hs hold]
    exact ⟨s, hs, hold⟩
  | false =>
    rcases b.answer_updateStatus provider id status message with ⟨⟨e, he⟩, _⟩ | ⟨_, _, hnew⟩
    · rw [answer_of_faultless hb, perform] at he
      split at he
      · cases he
      · rename_i e' hu
        rcases Store.updateStatus_eq_error hu with hnone | ⟨old, hsome, hold', _⟩
        · rw [hs] at hnone
          cases hnone
        · rw [hs] at hsome
          cases hsome
          rw [hold] at hold'
          cases hold'
    · exact ⟨status, (hnew id).trans (if_pos rfl), hterm⟩

theorem statusOf?_answer_of_ne {c : Call} (hcreate : ∀ draft, c ≠ .createMeeting draft)
    (hupdate : ∀ id status message, c ≠ .updateStatus id status message) (id : Uuid) :
    (b.answer provider c).2.store.statusOf? id = b.store.statusOf? id := by
  rcases answer_cases b provider c with ⟨faults, hb, _⟩ | ⟨faults, h⟩
  · rw [hb]
  · rw [h]
    simp only [Store.statusOf?, meetings_perform hcreate hupdate]

def oneQueued : Backend where
  store :=
    { Store.empty with
      meetings := MeetingTable.empty.insert
        (Meeting.ofDraft ⟨"Customer call", "notes", .manual, none⟩ ⟨1⟩ default) }
  supply := default
  now := default
  faults := []
  consultations := []

example : oneQueued.store.statusOf? ⟨1⟩ = some .queued := by decide

end Backend

end MeetingInsights
