import MeetingInsights.Proofs.MeetingRows
import MeetingInsights.Proofs.ServicesSideBySide

/-! # Records of meetings

The status of a meeting, its message and the time of its processing are written by different calls
and still agree, in whatever order services make them and whichever of them fail.
-/

namespace MeetingInsights

/-- What a record says about the processing of its meeting agrees: it has a message exactly when it
has failed, of 200 characters at most, and a time exactly when it has been processed. -/
structure Meeting.IsConsistent (m : Meeting) : Prop where
  explained : m.errorMessage.isSome ↔ m.status = .failed
  brief : ∀ text ∈ m.errorMessage, text.length ≤ 200
  dated : m.processedAt.isSome ↔ m.status = .done ∨ m.status = .failed

theorem Status.isTerminal_iff {s : Status} : s.isTerminal = true ↔ s = .done ∨ s = .failed := by
  cases s <;> decide

namespace Meeting

private theorem isConsistent_ofDraft (draft : MeetingDraft) (id : Uuid) (now : Timestamp) :
    (ofDraft draft id now).IsConsistent :=
  ⟨by simp [ofDraft], nofun, by simp [ofDraft]⟩

theorem IsConsistent.withStatus {m : Meeting} (h : m.IsConsistent)
    (isOpen : m.status.isTerminal = false) {id : Uuid} {status : Status} {message : Option String}
    (proper : (Call.updateStatus id status message).IsProper) (now : Timestamp) :
    (m.withStatus status message now).IsConsistent where
  explained := proper.1
  brief := proper.2
  dated := by
    have undated : m.processedAt.isSome = false := by
      rw [Bool.eq_false_iff, Ne, h.dated, ← Status.isTerminal_iff, isOpen]
      exact Bool.false_ne_true
    change (if status.isTerminal then some now else m.processedAt).isSome ↔
      status = .done ∨ status = .failed
    rw [← Status.isTerminal_iff]
    cases status.isTerminal with
    | true => simp
    | false => simpa using undated

end Meeting

def MeetingTable.IsConsistent (t : MeetingTable) : Prop := ∀ m ∈ t.rows, m.IsConsistent

private theorem Backend.MeetingEffect.isConsistent {b : Backend} {c : Call} {table : MeetingTable}
    (h : b.MeetingEffect c table) (proper : c.IsProper) (before : b.store.meetings.IsConsistent) :
    table.IsConsistent := by
  cases h with
  | nothing => exact before
  | create draft =>
    intro r hr
    rcases MeetingTable.mem_rows_insert hr with rfl | hr
    · exact Meeting.isConsistent_ofDraft draft _ _
    · exact before r hr
  | move status message found isOpen =>
    intro r hr
    rcases MeetingTable.mem_rows_replace hr with rfl | hr
    · exact (before _ (List.mem_of_find?_eq_some found)).withStatus isOpen proper b.now
    · exact before r hr

/-- However services have worked side by side on a store that began without rows, every record of a
meeting is consistent. -/
theorem Errand.records_consistent (errands : List Errand) (turns : List Turn) :
    (serve errands turns).backend.store.meetings.IsConsistent :=
  serve_keeps_store (J := fun s => s.meetings.IsConsistent) (fun _ h => (List.not_mem_nil h).elim)
    (fun b provider c proper before =>
      (b.meetingEffect_answer provider c).isConsistent proper before)
    turns

/-- Two jobs of one meeting, both without an answer of the provider. The update with which the
second closes comes too late. -/
example :
    let calm : Conditions := ⟨[], default, default⟩
    let late : Provider := fun _ _ => .error (.extraction "no answer")
    let turn i : Errand.Turn := ⟨i, late, calm⟩
    ((Errand.serve [.createMeeting ⟨"Weekly", "notes", .manual, none⟩, .process default,
        .process default] ([0, 1, 2, 1, 1, 1, 1, 2, 2].map turn)).backend.store.meetings.rows.map
      fun m => (m.status, m.errorMessage, m.processedAt.isSome)) =
      [(.failed, some "AI extraction failed: Extraction error: no answer", true)] := by
  decide +kernel

end MeetingInsights
