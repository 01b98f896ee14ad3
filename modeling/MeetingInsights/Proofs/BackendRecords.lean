import MeetingInsights.Proofs.JobExchanges
import MeetingInsights.Proofs.Statuses

/-! # What an answer leaves in the backend

The consultations, the evidence and the opportunities of a backend grow with the answers that it
gives, by just what the exchanges record.
-/

namespace MeetingInsights

def Store.evidenceFrom (s : Store) (meeting : Uuid) : List Evidence :=
  s.evidence.filter fun e => e.meetingId = meeting

def Backend.questionsAbout (b : Backend) (meeting : Uuid) : List Consultation :=
  b.consultations.filter fun c => c.meeting.id = meeting

namespace Backend

/-- Of one backend another has come by this exchange: it has recorded the question that the exchange
is, and written the rows that it answers with. -/
structure Grows (b b' : Backend) (x : Exchange) : Prop where
  questions : b'.consultations.map Consultation.meeting =
    b.consultations.map Consultation.meeting ++ x.question?.toList
  evidence : ∃ rows, b'.store.evidence = b.store.evidence ++ rows ∧
    rows.map (fun e => (e.meetingId, e.words)) =
      x.evidence?.toList.map fun e => (e.meetingId, e.words)
  opportunities : b'.store.opportunities.map OpportunityRecord.id =
    b.store.opportunities.map OpportunityRecord.id ++ x.opportunity?.toList

theorem Grows.of_nothing {b b' : Backend} {x : Exchange} (questions : x.question? = none)
    (evidence : x.evidence? = none) (opportunities : x.opportunity? = none)
    (hq : b'.consultations = b.consultations) (he : b'.store.evidence = b.store.evidence)
    (ho : b'.store.opportunities = b.store.opportunities) : Grows b b' x where
  questions := by simp [questions, hq]
  evidence := ⟨[], by simp [evidence, he]⟩
  opportunities := by simp [opportunities, ho]

variable {b : Backend} {provider : Provider}

private theorem grows_updateStatus (id : Uuid) (status : Status) (message : Option String) :
    Grows b (b.perform provider (.updateStatus id status message)).2
      ⟨.updateStatus id status message, (b.perform provider (.updateStatus id status message)).1⟩ := by
  simp only [perform]
  cases hu : b.store.updateStatus id status message b.now with
  | error e => exact .of_nothing rfl rfl rfl rfl rfl rfl
  | ok store =>
    have same := (Store.updateStatus_eq_ok hu).2.2
    have evidence : store.evidence = b.store.evidence := by rw [same]
    have opportunities : store.opportunities = b.store.opportunities := by rw [same]
    exact .of_nothing rfl rfl rfl rfl evidence opportunities

private theorem grows_createTheme (name : String) :
    Grows b (b.perform provider (.createTheme name)).2
      ⟨.createTheme name, (b.perform provider (.createTheme name)).1⟩ := by
  simp only [perform, Store.createTheme]
  split
  · rename_i h
    split at h <;> cases h
    exact .of_nothing rfl rfl rfl rfl rfl rfl
  · exact .of_nothing rfl rfl rfl rfl rfl rfl

private theorem grows_createOpportunity (draft : OpportunityDraft) :
    Grows b (b.perform provider (.createOpportunity draft)).2
      ⟨.createOpportunity draft, (b.perform provider (.createOpportunity draft)).1⟩ := by
  simp only [perform, Store.createOpportunity]
  split
  · rename_i h
    split at h <;> cases h
    exact ⟨by simp [Exchange.question?], ⟨[], by simp [Exchange.evidence?]⟩,
      by simp [Exchange.opportunity?, OpportunityRecord.ofDraft]⟩
  · exact .of_nothing rfl rfl rfl rfl rfl rfl

private theorem grows_addEvidence (draft : EvidenceDraft) :
    Grows b (b.perform provider (.addEvidence draft)).2
      ⟨.addEvidence draft, (b.perform provider (.addEvidence draft)).1⟩ := by
  simp only [perform, Store.addEvidence]
  split
  · rename_i h
    split at h
    · cases h
    · split at h <;> cases h
      refine ⟨by simp [Exchange.question?], ⟨[Evidence.ofDraft draft b.supply.evidence b.now], rfl, ?_⟩,
        by simp [Exchange.opportunity?]⟩
      rfl
  · exact .of_nothing rfl rfl rfl rfl rfl rfl

theorem grows_perform (b : Backend) (provider : Provider) (c : Call) :
    Grows b (b.perform provider c).2 ⟨c, (b.perform provider c).1⟩ := by
  cases c with
  | createMeeting | fetchMeeting | idsByStatus | roster | findTheme =>
    exact .of_nothing rfl rfl rfl rfl rfl rfl
  | updateStatus id status message => exact grows_updateStatus id status message
  | createOpportunity draft => exact grows_createOpportunity draft
  | createTheme name => exact grows_createTheme name
  | addEvidence draft => exact grows_addEvidence draft
  | extract meeting roster =>
    exact ⟨by simp [perform, Exchange.question?], ⟨[], by simp [perform, Exchange.evidence?]⟩,
      by simp [perform, Exchange.opportunity?]⟩

theorem Grows.evidenceFrom {b' : Backend} {x : Exchange} (h : Grows b b' x) (meeting : Uuid) :
    ∃ rows, b'.store.evidenceFrom meeting = b.store.evidenceFrom meeting ++ rows ∧
      rows.map Evidence.words =
        (x.evidence?.toList.filter fun e => e.meetingId = meeting).map EvidenceDraft.words := by
  obtain ⟨rows, hrows, hwords⟩ := h.evidence
  refine ⟨rows.filter fun e => e.meetingId = meeting, ?_, ?_⟩
  · rw [Store.evidenceFrom, hrows, List.filter_append, Store.evidenceFrom]
  · have about := congrArg (fun l : List (Uuid × String × Option String) =>
      (l.filter fun e => e.1 = meeting).map Prod.snd) hwords
    simpa only [List.filter_map, List.map_map, Function.comp_def] using about

theorem Grows.questionsAbout {b' : Backend} {x : Exchange} (h : Grows b b' x) (meeting : Uuid) :
    (b'.questionsAbout meeting).map Consultation.meeting =
      (b.questionsAbout meeting).map Consultation.meeting ++
        x.question?.toList.filter fun m => m.id = meeting := by
  have about := congrArg (fun l : List Meeting => l.filter fun m => m.id = meeting) h.questions
  simpa only [Backend.questionsAbout, List.filter_map, List.filter_append, Function.comp_def]
    using about

end Backend

end MeetingInsights
