import MeetingInsights.Proofs.Requeueing
import MeetingInsights.Proofs.StoreIntegrity

/-! # Refused calls

When an operation of the store fails is said by the rows alone: it has to do with a row that is
missing, a name that is taken or a meeting that has ended. A call that fails leaves everything as it
was, so that all a program leaves behind is what the calls that it got done leave by themselves.
-/

namespace MeetingInsights

theorem MeetingTable.find?_eq_none_iff {t : MeetingTable} {id : Uuid} :
    t.find? id = none ↔ id ∉ t.rows.map Meeting.id := by
  rw [← find?_isSome_iff, Option.not_isSome_iff_eq_none]

namespace Store

/-- A call that the rows of a store do not allow, with the error that it is answered. -/
inductive Refuses (s : Store) : Call → Error → Prop where
  | fetchOfMissing {id : Uuid} (missing : id ∉ s.meetings.rows.map Meeting.id) :
      Refuses s (.fetchMeeting id) (.meetingNotFound id)
  | updateOfMissing {id : Uuid} {status : Status} {message : Option String}
      (missing : id ∉ s.meetings.rows.map Meeting.id) :
      Refuses s (.updateStatus id status message) (.meetingNotFound id)
  | updateOfTerminal {m : Meeting} {status : Status} {message : Option String}
      (stored : m ∈ s.meetings.rows) (terminal : m.status.isTerminal = true) :
      Refuses s (.updateStatus m.id status message) (refusedTransition m.id m.status status)
  | opportunityWithoutTheme {draft : OpportunityDraft} {theme : Uuid}
      (files : draft.themeId = some theme) (missing : theme ∉ s.themes.map Theme.id) :
      Refuses s (.createOpportunity draft) (.notFound ("theme " ++ theme.toText))
  | themeNameTaken {name : String} (taken : name ∈ s.themes.map Theme.name) :
      Refuses s (.createTheme name) (.conflict ("theme '" ++ name ++ "' already exists"))
  | evidenceWithoutOpportunity {draft : EvidenceDraft}
      (missing : draft.opportunityId ∉ s.opportunities.map OpportunityRecord.id) :
      Refuses s (.addEvidence draft) (.opportunityNotFound draft.opportunityId)
  | evidenceWithoutMeeting {draft : EvidenceDraft}
      (stored : draft.opportunityId ∈ s.opportunities.map OpportunityRecord.id)
      (missing : draft.meetingId ∉ s.meetings.rows.map Meeting.id) :
      Refuses s (.addEvidence draft) (.meetingNotFound draft.meetingId)

variable {s : Store} {id : Uuid} {now : Timestamp} {e : Error}

theorem opportunityRecord?_eq_none_iff :
    s.opportunityRecord? id = none ↔ id ∉ s.opportunities.map OpportunityRecord.id := by
  rw [← Merge.opportunityRecord?_isSome_iff, Option.not_isSome_iff_eq_none]

theorem themeById?_eq_none_iff : s.themeById? id = none ↔ id ∉ s.themes.map Theme.id := by
  simp [themeById?]

private theorem fetchOpportunity_eq_error_iff : s.fetchOpportunity id = .error e ↔
    e = .opportunityNotFound id ∧ id ∉ s.opportunities.map OpportunityRecord.id := by
  rw [fetchOpportunity, ← opportunityRecord?_eq_none_iff]
  cases s.opportunityRecord? id with
  | none => simp [eq_comm]
  | some o => simp

private theorem refuses_of_fetchMeeting (failed : s.fetchMeeting id = .error e) :
    s.Refuses (.fetchMeeting id) e := by
  unfold fetchMeeting at failed
  split at failed
  · cases failed
  · cases failed
    exact .fetchOfMissing (MeetingTable.find?_eq_none_iff.mp ‹_›)

private theorem refuses_of_updateStatus {status : Status} {message : Option String}
    (failed : s.updateStatus id status message now = .error e) :
    s.Refuses (.updateStatus id status message) e := by
  unfold updateStatus at failed
  split at failed
  · cases failed
    exact .updateOfMissing (MeetingTable.find?_eq_none_iff.mp ‹_›)
  · rename_i m found
    obtain rfl := MeetingTable.find?_eq_some found
    split at failed
    · cases failed
      exact .updateOfTerminal (List.mem_of_find?_eq_some found) ‹_›
    · cases failed

private theorem refuses_of_createOpportunity {draft : OpportunityDraft}
    (failed : s.createOpportunity draft id now = .error e) :
    s.Refuses (.createOpportunity draft) e := by
  unfold createOpportunity at failed
  cases files : draft.themeId with
  | none => simp [files, acceptsTheme] at failed
  | some theme =>
    simp only [files, acceptsTheme] at failed
    split at failed
    · cases failed
    · rename_i unknown
      cases failed
      exact .opportunityWithoutTheme files (themeById?_eq_none_iff.mp (by simpa using unknown))

private theorem refuses_of_createTheme {name : String}
    (failed : s.createTheme name id now = .error e) : s.Refuses (.createTheme name) e := by
  unfold createTheme at failed
  split at failed
  · rename_i taken
    cases failed
    obtain ⟨t, found⟩ := Option.isSome_iff_exists.mp taken
    obtain ⟨mem, rfl⟩ := findTheme?_eq_some found
    exact .themeNameTaken (List.mem_map_of_mem mem)
  · cases failed

private theorem refuses_of_addEvidence {draft : EvidenceDraft}
    (failed : s.addEvidence draft id now = .error e) : s.Refuses (.addEvidence draft) e := by
  unfold addEvidence at failed
  split at failed
  · rename_i unknown
    cases failed
    exact .evidenceWithoutOpportunity (opportunityRecord?_eq_none_iff.mp (by simpa using unknown))
  · rename_i known
    split at failed
    · rename_i unknown
      cases failed
      refine .evidenceWithoutMeeting ?_ (MeetingTable.find?_eq_none_iff.mp (by simpa using unknown))
      refine Merge.opportunityRecord?_isSome_iff.mp ?_
      simpa [← Option.isSome_iff_ne_none] using known
    · cases failed

end Store

namespace Backend

variable {b r : Backend} {provider : Provider} {c : Call} {e : Error}

private theorem perform_of_refuses (refused : b.store.Refuses c e) :
    (b.perform provider c).1 = .error e := by
  cases refused with
  | fetchOfMissing missing =>
    simp only [perform, Store.fetchMeeting, MeetingTable.find?_eq_none_iff.mpr missing]
  | updateOfMissing missing =>
    simp only [perform, Store.updateStatus, MeetingTable.find?_eq_none_iff.mpr missing]
  | updateOfTerminal stored terminal =>
    simp only [perform, Store.updateStatus, MeetingTable.find?_of_mem stored, terminal, if_true]
  | opportunityWithoutTheme files missing =>
    simp [perform, Store.createOpportunity, files, Store.acceptsTheme,
      Store.themeById?_eq_none_iff.mpr missing]
  | themeNameTaken taken =>
    have found := mt Store.findTheme?_eq_none_iff.mp (not_not_intro taken)
    simp [perform, Store.createTheme, Option.isSome_iff_ne_none.mpr found]
  | evidenceWithoutOpportunity missing =>
    simp [perform, Store.addEvidence, Store.opportunityRecord?_eq_none_iff.mpr missing]
  | @evidenceWithoutMeeting draft stored missing =>
    obtain ⟨o, found⟩ :=
      Option.isSome_iff_exists.mp (Merge.opportunityRecord?_isSome_iff.mpr stored)
    simp [perform, Store.addEvidence, found, MeetingTable.find?_eq_none_iff.mpr missing]

/-- An operation that fails has been refused, and everything is as it was. -/
theorem refuses_of_perform (asked : c.operation?.isSome)
    (failed : (b.perform provider c).1 = .error e) :
    b.store.Refuses c e ∧ (b.perform provider c).2 = b := by
  cases c with
  | createMeeting | idsByStatus | roster | findTheme => cases failed
  | fetchMeeting id => exact ⟨Store.refuses_of_fetchMeeting failed, rfl⟩
  | updateStatus id status message =>
    simp only [perform] at failed ⊢
    cases refusal : b.store.updateStatus id status message b.now with
    | ok => simp [refusal] at failed
    | error =>
      simp only [refusal, and_true] at failed ⊢
      cases failed
      exact Store.refuses_of_updateStatus refusal
  | createOpportunity draft =>
    simp only [perform] at failed ⊢
    cases refusal : b.store.createOpportunity draft b.supply.opportunity b.now with
    | ok => simp [refusal] at failed
    | error =>
      simp only [refusal, and_true] at failed ⊢
      cases failed
      exact Store.refuses_of_createOpportunity refusal
  | createTheme name =>
    simp only [perform] at failed ⊢
    cases refusal : b.store.createTheme name b.supply.theme b.now with
    | ok => simp [refusal] at failed
    | error =>
      simp only [refusal, and_true] at failed ⊢
      cases failed
      exact Store.refuses_of_createTheme refusal
  | addEvidence draft =>
    simp only [perform] at failed ⊢
    cases refusal : b.store.addEvidence draft b.supply.evidence b.now with
    | ok => simp [refusal] at failed
    | error =>
      simp only [refusal, and_true] at failed ⊢
      cases failed
      exact Store.refuses_of_addEvidence refusal
  | extract meeting roster => cases asked

/-- An operation fails just with what the rows of the store refuse of it, whatever they are, and one
that fails leaves all of them as they were. An opportunity is looked up likewise. -/
theorem fails_iff_refuses (b : Backend) (provider : Provider) (c : Call)
    (asked : c.operation?.isSome) :
    (∀ e, (b.perform provider c).1 = .error e ↔ b.store.Refuses c e) ∧
      ((∃ e, (b.perform provider c).1 = .error e) → (b.perform provider c).2 = b) ∧
      ∀ id e, b.store.fetchOpportunity id = .error e ↔
        e = .opportunityNotFound id ∧ id ∉ b.store.opportunities.map OpportunityRecord.id := by
  refine ⟨fun e => ⟨fun failed => ?_, perform_of_refuses⟩, ?_, fun id e => ?_⟩
  · exact (refuses_of_perform asked failed).1
  · rintro ⟨e, failed⟩
    exact (refuses_of_perform asked failed).2
  · exact Store.fetchOpportunity_eq_error_iff

/-- Where both rows are missing, it is the opportunity that is reported. -/
theorem fails_of_vacant :
    (∀ e, (vacant.perform (fun _ _ => .ok []) (.addEvidence ⟨default, default, "quote", none⟩)).1 =
        .error e ↔ e = .opportunityNotFound default) ∧
      (vacant.perform (fun _ _ => .ok []) (.addEvidence ⟨default, default, "quote", none⟩)).2 =
        vacant := by
  obtain ⟨fails, unchanged, _⟩ := fails_iff_refuses vacant (fun _ _ => .ok [])
    (.addEvidence ⟨default, default, "quote", none⟩) rfl
  have refused : vacant.store.Refuses (.addEvidence ⟨default, default, "quote", none⟩)
      (.opportunityNotFound default) := .evidenceWithoutOpportunity List.not_mem_nil
  have failed := (fails _).mpr refused
  refine ⟨fun e => ?_, unchanged ⟨_, failed⟩⟩
  rw [failed, Except.error.injEq, eq_comm]

/-- Two backends with the same rows, of which the next get the same identifiers and time. -/
structure Agrees (b r : Backend) : Prop where
  store : b.store = r.store
  supply : b.supply = r.supply
  now : b.now = r.now

theorem Agrees.perform (h : b.Agrees r) (provider : Provider) (c : Call) :
    (b.perform provider c).2.Agrees (r.perform provider c).2 := by
  obtain ⟨store, supply, now, faults, consultations⟩ := b
  obtain ⟨rfl, rfl, rfl⟩ := h
  cases c with
  | updateStatus id status message =>
    simp only [Backend.perform]
    cases r.store.updateStatus id status message r.now <;> exact ⟨rfl, rfl, rfl⟩
  | createOpportunity draft =>
    simp only [Backend.perform]
    cases r.store.createOpportunity draft r.supply.opportunity r.now <;> exact ⟨rfl, rfl, rfl⟩
  | createTheme name =>
    simp only [Backend.perform]
    cases r.store.createTheme name r.supply.theme r.now <;> exact ⟨rfl, rfl, rfl⟩
  | addEvidence draft =>
    simp only [Backend.perform]
    cases r.store.addEvidence draft r.supply.evidence r.now <;> exact ⟨rfl, rfl, rfl⟩
  | createMeeting | fetchMeeting | idsByStatus | roster | findTheme | extract =>
    exact ⟨rfl, rfl, rfl⟩

private theorem agrees_of_error (failed : (b.answer provider c).1 = .error e) :
    (b.answer provider c).2.Agrees b := by
  rcases answer_cases b provider c with ⟨faults, left, _⟩ | ⟨faults, performed⟩
  · rw [left]
    exact ⟨rfl, rfl, rfl⟩
  · rw [performed] at failed ⊢
    cases asked : c.operation? with
    | none =>
      cases c with
      | extract => exact ⟨rfl, rfl, rfl⟩
      | createMeeting | fetchMeeting | updateStatus | idsByStatus | createOpportunity | roster
      | findTheme | createTheme | addEvidence => cases asked
    | some op =>
      rw [(refuses_of_perform (by rw [asked]; rfl) failed).2]
      exact ⟨rfl, rfl, rfl⟩

private theorem agrees_of_ok {a : c.Result} (answered : (b.answer provider c).1 = .ok a) :
    (b.answer provider c).2.Agrees (b.perform provider c).2 := by
  rcases answer_cases b provider c with
    ⟨faults, left, ⟨e, failed⟩ | ⟨name, rfl⟩⟩ | ⟨faults, performed⟩
  · cases failed.symm.trans answered
  · rw [left]
    exact ⟨rfl, rfl, rfl⟩
  · rw [performed]
    exact ⟨rfl, rfl, rfl⟩

theorem Agrees.trans {b' : Backend} (h : b.Agrees r) (k : r.Agrees b') : b.Agrees b' :=
  ⟨h.store.trans k.store, h.supply.trans k.supply, h.now.trans k.now⟩

end Backend

namespace Program

variable {α : Type}

/-- The calls that a program gets done when it runs alone: those that are answered with a result. -/
def completed (provider : Provider) : Program α → Backend → List Call
  | .done _, _ => []
  | .call c next, b =>
    let (r, left) := b.answer provider c
    let later := (next r).completed provider left
    match r with
    | .ok _ => c :: later
    | .error _ => later

private theorem agrees_run (p : Program α) (provider : Provider) {b r : Backend} (h : b.Agrees r) :
    (p.run provider b).2.Agrees
      ((p.completed provider b).foldl (fun b c => (b.perform provider c).2) r) := by
  induction p generalizing b r with
  | done a => exact h
  | call c next ih =>
    rw [run_call, completed]
    dsimp only
    cases answered : (b.answer provider c).1 with
    | error e =>
      exact ih _ ((Backend.agrees_of_error answered).trans h)
    | ok a =>
      exact ih _ ((Backend.agrees_of_ok answered).trans (h.perform provider c))

/-- What a program leaves behind is what the calls that it got done leave by themselves, in whatever
way the others failed. -/
theorem store_run_completed (p : Program α) (provider : Provider) (b : Backend) :
    (p.run provider b).2.store =
      ((p.completed provider b).foldl (fun b c => (b.perform provider c).2) b).store :=
  (agrees_run p provider ⟨rfl, rfl, rfl⟩).store

end Program

end MeetingInsights
