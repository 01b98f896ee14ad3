import MeetingInsights.Proofs.AttemptRuns
import MeetingInsights.Proofs.JobClosings
import MeetingInsights.Proofs.StatusTransitions

/-! # Final records

The record of a meeting that is done or has failed is final. Whatever is done to the store, by single
operations or by services at work side by side, and whatever fails meanwhile, no part of it changes
again, and a job of it does nothing.
-/

namespace MeetingInsights

/-- The programs that work on a store. Those at work side by side make their calls one at a time. -/
inductive Service where
  | begin (id : Uuid)
  | complete (id : Uuid)
  | fail (id : Uuid) (message : String)
  | apply (meeting : Uuid) (findings : List Finding)
  | process (id : Uuid)

def Service.run (provider : Provider) (b : Backend) : Service → Backend
  | begin id => ((Progress.begin id).run provider b).2
  | complete id => ((Progress.complete id).run provider b).2
  | fail id message => ((Progress.fail id message).run provider b).2
  | apply meeting findings => ((Merge.apply meeting findings).run provider b).2
  | process id => ((Job.process id).run provider b).2

/-- One store becomes another by operations and services. Faults, supply and time may be any at each
of them, but a new meeting gets an identifier that is not in use. -/
inductive Store.Becomes (s : Store) : Store → Prop where
  | refl : Becomes s s
  | operate {b : Backend} (provider : Provider) (c : Call) (before : Becomes s b.store)
      (new : ∀ draft, c = .createMeeting draft →
        b.supply.meeting ∉ b.store.meetings.rows.map Meeting.id) :
      Becomes s (b.answer provider c).2.store
  | serve {b : Backend} (provider : Provider) (service : Service) (before : Becomes s b.store) :
      Becomes s (service.run provider b).store

private theorem MeetingTable.find?_insert_of_new {t : MeetingTable} {m r : Meeting} {id : Uuid}
    (new : m.id ∉ t.rows.map Meeting.id) (found : t.find? id = some r) :
    (t.insert m).find? id = some r := by
  rw [find?, rows_insert_of_notMem new, List.find?_append]
  rw [find?] at found
  rw [found, Option.some_or]

section

variable {b : Backend} {m : Meeting} {provider : Provider}

theorem Backend.find?_answer_of_final (found : b.store.meetings.find? m.id = some m)
    (final : m.status.isTerminal = true) {c : Call}
    (new : ∀ draft, c = .createMeeting draft →
      b.supply.meeting ∉ b.store.meetings.rows.map Meeting.id) :
    (b.answer provider c).2.store.meetings.find? m.id = some m := by
  by_cases created : ∃ draft, c = .createMeeting draft
  · obtain ⟨draft, rfl⟩ := created
    rcases b.answer_cases provider (.createMeeting draft) with ⟨faults, hb, _⟩ | ⟨faults, h⟩
    · rw [hb, found]
    · rw [h]
      exact MeetingTable.find?_insert_of_new (new draft rfl) found
  by_cases updated : ∃ status message, c = .updateStatus m.id status message
  · obtain ⟨status, message, rfl⟩ := updated
    rcases b.answer_cases provider (.updateStatus m.id status message) with
      ⟨faults, hb, _⟩ | ⟨faults, h⟩
    · rw [hb, found]
    · rw [h]
      simp [perform, Store.updateStatus, found, final]
  · rw [find?_answer_of_ne, found]
    · exact fun draft hc => created ⟨draft, hc⟩
    · intro id status message hc same
      exact updated ⟨status, message, same ▸ hc⟩

theorem Job.creates_nothing {id : Uuid} {xs : List Exchange} {o : Option Outcome}
    (h : (process id).Takes xs o) : ∀ x ∈ xs, ∀ draft, x.call ≠ .createMeeting draft := by
  intro x hx draft hc
  rcases (course_of_takes h).begins with rfl | ⟨r, ys, rfl, _, follow⟩
  · cases hx
  · rcases List.mem_cons.mp hx with rfl | hx
    · cases hc
    · have creates := follow x hx
      rw [hc] at creates
      exact creates

theorem Merge.creates_nothing (meeting : Uuid) (findings : List Finding) :
    (apply meeting findings).Calls fun c => ∀ draft, c ≠ .createMeeting draft := by
  intro xs o h x hx draft hc
  have merges := (records_apply h).calls x hx
  rw [hc] at merges
  exact merges

private theorem Service.find?_run (found : b.store.meetings.find? m.id = some m)
    (final : m.status.isTerminal = true) (service : Service) :
    (service.run provider b).store.meetings.find? m.id = some m := by
  have step : ∀ (b : Backend) (c : Call), (∀ draft, c ≠ .createMeeting draft) →
      b.store.meetings.find? m.id = some m →
      (b.answer provider c).2.store.meetings.find? m.id = some m := fun b c other found =>
    Backend.find?_answer_of_final found final fun draft hc => (other draft hc).elim
  have update : ∀ id status message, (b.answer provider
      (.updateStatus id status message)).2.store.meetings.find? m.id = some m :=
    fun id status message => step b _ nofun found
  cases service with
  | begin id | complete id | fail id message => exact update _ _ _
  | apply meeting findings => exact (Merge.creates_nothing meeting findings).run_keeps step found
  | process id => exact Program.run_keeps (fun _ _ => Job.creates_nothing) step found

private theorem Store.Becomes.find?_of_final {s t : Store} (h : s.Becomes t)
    (found : s.meetings.find? m.id = some m) (final : m.status.isTerminal = true) :
    t.meetings.find? m.id = some m := by
  induction h with
  | refl => exact found
  | operate provider c _ new ih => exact Backend.find?_answer_of_final ih final new
  | serve provider service _ ih => exact service.find?_run ih final

theorem Backend.answer_updateStatus_of_final (found : b.store.meetings.find? m.id = some m)
    (final : m.status.isTerminal = true) {status : Status} {message : Option String}
    (spared : (b.strike (.updateStatus m.id status message)).1 = none) :
    ∃ faults, b.answer provider (.updateStatus m.id status message) =
      (.error (Store.refusedTransition m.id m.status status), { b with faults }) := by
  obtain ⟨faults, left⟩ := b.exists_strike_eq (.updateStatus m.id status message)
  refine ⟨faults, ?_⟩
  simp [answer, spared, left, perform, Store.updateStatus, found, final]

private theorem Job.run_process_of_final (found : b.store.meetings.find? m.id = some m)
    (final : m.status.isTerminal = true) (spared : (b.strike (beginCall m.id)).1 = none) :
    ∃ faults, (process m.id).run provider b = (.skipped, { b with faults }) := by
  obtain ⟨faults, refused⟩ := Backend.answer_updateStatus_of_final found final spared
  exact ⟨faults, run_process_of_refusal refused⟩

end

/-- What is known of a store in which a meeting is final, with this record. -/
structure Store.Final (m : Meeting) (s : Store) : Prop where
  record : s.meetings.find? m.id = some m
  refused : ∀ (b : Backend) (provider : Provider) (status : Status) (message : Option String),
    b.store = s → (b.strike (.updateStatus m.id status message)).1 = none →
    ∃ faults, b.answer provider (.updateStatus m.id status message) =
      (.error (refusedTransition m.id m.status status), { b with faults })
  skipped : ∀ (b : Backend) (provider : Provider), b.store = s →
    (b.strike (Job.beginCall m.id)).1 = none →
    ∃ faults, (Job.process m.id).run provider b = (.skipped, { b with faults })

/-- A meeting that is done or has failed keeps its record for ever, each update of it that no fault
strikes is refused, and a job of it that is not disturbed asks nothing and leaves the store as it is. -/
theorem Store.final_of_becomes {s t : Store} {m : Meeting}
    (found : s.meetings.find? m.id = some m) (final : m.status.isTerminal = true)
    (later : s.Becomes t) : t.Final m := by
  have record := later.find?_of_final found final
  constructor
  case record => exact record
  case refused =>
    rintro b provider status message rfl spared
    exact Backend.answer_updateStatus_of_final record final spared
  case skipped =>
    rintro b provider rfl spared
    exact Job.run_process_of_final record final spared

def Backend.oneFailed : Backend where
  store :=
    { Store.empty with
      meetings := MeetingTable.empty.insert
        ((Meeting.ofDraft ⟨"Customer call", "notes", .manual, none⟩ ⟨1⟩ default).withStatus .failed
          (some "AI extraction failed") default) }
  supply := { (default : Supply) with meeting := ⟨2⟩ }
  now := default
  faults := [⟨.updateStatus, 1, 1, .failure (.database "connection lost")⟩]
  consultations := []

/-- The failed meeting through a new meeting, an update of it and a job of it, of which the update
that begins the job is struck by a fault. -/
theorem Store.final_of_oneFailed :
    ∃ m, Backend.oneFailed.store.meetings.find? ⟨1⟩ = some m ∧
      ((Service.process ⟨1⟩).run Job.silent
        ((Backend.oneFailed.answer Job.silent (.createMeeting ⟨"Weekly", "", .file, none⟩)).2.answer
          Job.silent (.updateStatus ⟨1⟩ .done none)).2).store.Final m := by
  refine ⟨_, rfl, ?_⟩
  refine final_of_becomes rfl rfl (.serve _ _ (.operate _ _ (.operate _ _ .refl ?_) nofun))
  rintro draft ⟨⟩
  decide

end MeetingInsights
