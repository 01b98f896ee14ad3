import MeetingInsights.Proofs.DisturbedMerges
import MeetingInsights.Proofs.JobRuns
import MeetingInsights.Proofs.MeetingRows
import MeetingInsights.Proofs.MergeAccounts

/-! # The confines of a job

What a job that runs alone may touch, whichever of its calls fail: the status of its own meeting,
and rows that it adds. How far it has got when it ends early shows in its outcome, and then it has
added nothing, or the beginning of what the merge would have added that nothing disturbs.
-/

namespace MeetingInsights

private theorem forall₂_trans {α : Type} {R : α → α → Prop} (trans : ∀ x y z, R x y → R y z → R x z)
    {l l' l'' : List α} (h : List.Forall₂ R l l') (k : List.Forall₂ R l' l'') :
    List.Forall₂ R l l'' := by
  induction h generalizing l'' with
  | nil => exact k
  | cons first _ ih =>
    cases k with
    | cons second rest => exact .cons (trans _ _ _ first second) (ih rest)

namespace Backend

/-- Of one backend another has come by work for a meeting. Rows are only added, evidence among them
only from this meeting. Of the meetings only this one may have moved on, and it has kept its
notes. -/
structure Confined (id : Uuid) (b b' : Backend) : Prop where
  meetings : List.Forall₂ (fun m m' => m.SameNotes m' ∧ (m.id ≠ id → m' = m))
    b.store.meetings.rows b'.store.meetings.rows
  opportunities : b.store.opportunities <+: b'.store.opportunities
  themes : b.store.themes <+: b'.store.themes
  evidence : ∃ rows, b'.store.evidence = b.store.evidence ++ rows ∧ ∀ e ∈ rows, e.meetingId = id

variable {id : Uuid} {b b' b'' : Backend}

theorem Confined.refl (id : Uuid) (b : Backend) : b.Confined id b where
  meetings := List.forall₂_same.mpr fun m _ => ⟨.refl m, fun _ => rfl⟩
  opportunities := List.prefix_rfl
  themes := List.prefix_rfl
  evidence := ⟨[], (List.append_nil _).symm, List.forall_mem_nil _⟩

theorem Confined.trans (h : b.Confined id b') (k : b'.Confined id b'') : b.Confined id b'' where
  meetings := by
    refine forall₂_trans (fun m m' m'' first second => ?_) h.meetings k.meetings
    refine ⟨first.1.trans second.1, fun other => ?_⟩
    rw [second.2 (first.1.id ▸ other), first.2 other]
  opportunities := h.opportunities.trans k.opportunities
  themes := h.themes.trans k.themes
  evidence := by
    obtain ⟨rows, added, about⟩ := h.evidence
    obtain ⟨more, addedMore, aboutMore⟩ := k.evidence
    exact ⟨rows ++ more, by rw [addedMore, added, List.append_assoc],
      List.forall_mem_append.mpr ⟨about, aboutMore⟩⟩

/-- The calls of a job: the one that begins it, and those that follow. -/
theorem confined_answer (b : Backend) (provider : Provider) {c : Call}
    (hc : c = Job.beginCall id ∨ Job.FollowsBegin id c) :
    b.Confined id (b.answer provider c).2 where
  meetings := by
    refine (b.meetingEffect_answer provider c).forall₂ (fun m => ⟨.refl m, fun _ => rfl⟩) ?_ ?_
    · rintro draft rfl
      exact hc.elim nofun fun creates => creates
    · rintro m status message rfl
      have own : m.id = id := by
        rcases hc with begins | follows
        · exact (Call.updateStatus.inj begins).1
        · exact follows.1
      exact ⟨.withStatus m status message b.now, fun other => (other own).elim⟩
  opportunities := (b.effect_answer provider c).opportunities
  themes := (b.effect_answer provider c).themes
  evidence := by
    have writes := Merge.writes_answer b provider c
    generalize hx : (⟨c, (b.answer provider c).1⟩ : Exchange) = x,
      (b.answer provider c).2.store = s at writes ⊢
    obtain rfl : c = x.call := congrArg Exchange.call hx
    cases writes with
    | nothing _ _ _ _ _ same =>
      exact ⟨[], same.trans (List.append_nil _).symm, List.forall_mem_nil _⟩
    | opportunity | theme => exact ⟨[], (List.append_nil _).symm, List.forall_mem_nil _⟩
    | evidence draft =>
      exact ⟨_, rfl, List.forall_mem_singleton.mpr (hc.elim nofun fun about => about)⟩

private theorem confined_process (b : Backend) (provider : Provider) (id : Uuid) :
    b.Confined id ((Job.process id).run provider b).2 := by
  have calls : ∀ xs o, (Job.process id).Takes xs o →
      ∀ x ∈ xs, x.call = Job.beginCall id ∨ Job.FollowsBegin id x.call :=
    fun _ _ h => (Job.course_of_takes h).calls
  exact Program.run_keeps calls (fun b' c hc h => h.trans (b'.confined_answer provider hc))
    (.refl id b)

end Backend

/-- A call of a job that is neither the question to the provider nor one of the merge. -/
def Call.IsAside : Call → Prop
  | .fetchMeeting _ | .updateStatus .. | .roster => True
  | _ => False

namespace Backend

variable {b : Backend} {c : Call}

private theorem view_perform_of_isAside (provider : Provider) (hc : c.IsAside) :
    (b.perform provider c).2.view = b.view := by
  cases c with
  | updateStatus id status message =>
    simp only [perform, Store.updateStatus]
    cases b.store.meetings.find? id with
    | none => rfl
    | some m =>
      dsimp only
      cases m.status.isTerminal with
      | true => rfl
      | false =>
        exact congrArg (fun ids => { b.view with meetings := ids })
          (MeetingTable.map_id_replace b.store.meetings (m.withStatus status message b.now))
  | fetchMeeting | roster => rfl
  | createMeeting | idsByStatus | createOpportunity | findTheme | createTheme | addEvidence
  | extract => exact hc.elim

theorem consultations_answer (provider : Provider) (unasked : ∀ m roster, c ≠ .extract m roster) :
    (b.answer provider c).2.consultations = b.consultations := by
  rcases b.answer_cases provider c with ⟨faults, hb, _⟩ | ⟨faults, h⟩
  · rw [hb]
  · rw [h]
    exact (b.clock_perform provider unasked).2

theorem answer_of_isAside (provider : Provider) (hc : c.IsAside) :
    (b.answer provider c).2.view = b.view ∧
      (b.answer provider c).2.consultations = b.consultations := by
  constructor
  · rcases b.answer_cases provider c with ⟨faults, hb, _⟩ | ⟨faults, h⟩
    · rw [hb]
      rfl
    · rw [h]
      exact view_perform_of_isAside provider hc
  · refine consultations_answer provider fun m roster asks => ?_
    rw [asks] at hc
    exact hc

theorem answer_updateStatus_aside (b : Backend) (provider : Provider) (id : Uuid) (status : Status)
    (message : Option String) :
    (b.answer provider (.updateStatus id status message)).2.view = b.view ∧
      (b.answer provider (.updateStatus id status message)).2.consultations = b.consultations :=
  answer_of_isAside provider trivial

end Backend

namespace Job

variable {id : Uuid} {b b' : Backend} {provider : Provider}

theorem Stage.take_failure (stage : Stage) (e : Error) :
    (stage.failure e).toList.take 11 = stage.label.toList.take 11 := by
  have long : 11 ≤ stage.label.toList.length := by cases stage <;> decide
  rw [failure, String.toList_append, String.toList_append, List.append_assoc,
    List.take_append_of_le_length long]

/-- The stage in which a job has failed shows in its message. -/
theorem Stage.eq_of_failure {stage stage' : Stage} {e e' : Error}
    (h : stage.failure e = stage'.failure e') : stage = stage' := by
  have labels : stage.label.toList.take 11 = stage'.label.toList.take 11 := by
    rw [← stage.take_failure e, h, stage'.take_failure e']
  revert labels
  cases stage <;> cases stage' <;> decide

/-- What a job of a meeting comes to, and what it leaves of what a merge can see. -/
inductive Ends (provider : Provider) (id : Uuid) (b : Backend) : Outcome → Backend → Prop where
  | skipped {b' : Backend} (same : b'.view = b.view) : Ends provider id b .skipped b'
  | failed {stage : Stage} {e : Error} {b' : Backend} (early : stage ≠ .saving)
      (same : b'.view = b.view) : Ends provider id b (.failed (stage.failure e)) b'
  | unmerged {m : Meeting} {roster : List RosterEntry} {findings : List Finding} {e : Error}
      {b₁ b' : Backend} (answer : provider m roster = .ok findings) (same : b₁.view = b.view)
      (asked : b'.consultations = b.consultations ++ [⟨m, roster⟩])
      (merged : b'.view = ((Merge.apply id findings).run provider b₁).2.view) :
      Ends provider id b (.failed (Stage.saving.failure e)) b'
  | done {s : Merge.Summary} {b' : Backend} : Ends provider id b (.done s) b'

theorem ends_giveUp (stage : Stage) (early : stage ≠ .saving) (e : Error)
    (same : b'.view = b.view) :
    Ends provider id b ((giveUp id stage e).run provider b').1
      ((giveUp id stage e).run provider b').2 :=
  .failed early ((b'.answer_updateStatus_aside provider id _ _).1.trans same)

private theorem consultations_apply (b : Backend) (provider : Provider) (id : Uuid)
    (findings : List Finding) :
    ((Merge.apply id findings).run provider b).2.consultations = b.consultations := by
  have calls : (Merge.apply id findings).Calls (Call.IsMergeOf id) := fun _ _ h =>
    (Merge.records_apply h).calls
  have step : ∀ (t : Backend) (c : Call), c.IsMergeOf id → t.consultations = b.consultations →
      (t.answer provider c).2.consultations = b.consultations := by
    intro t c hc h
    refine (Backend.consultations_answer provider fun m roster asks => ?_).trans h
    rw [asks] at hc
    exact hc
  exact calls.run_keeps step rfl

private theorem ends_save {m : Meeting} {roster : List RosterEntry} {findings : List Finding}
    (answer : provider m roster = .ok findings) (same : b'.view = b.view)
    (asked : b'.consultations = b.consultations ++ [⟨m, roster⟩]) :
    Ends provider id b ((save id findings).run provider b').1
      ((save id findings).run provider b').2 := by
  have unasked := consultations_apply b' provider id findings
  cases merge : (Merge.apply id findings).run provider b' with
  | mk r b₂ =>
    rw [run_save merge]
    rw [merge] at unasked
    cases r with
    | ok s => exact .done
    | error e =>
      obtain ⟨view, consultations⟩ := b₂.answer_updateStatus_aside provider id .failed
        (some (Text.truncateFailureMessage (Stage.saving.failure e)))
      refine .unmerged answer same (consultations.trans (unasked.trans asked)) ?_
      rw [merge]
      exact view

private theorem ends_consult {m : Meeting} {roster : List RosterEntry} (same : b'.view = b.view)
    (unasked : b'.consultations = b.consultations) :
    Ends provider id b ((consult id m roster).run provider b').1
      ((consult id m roster).run provider b').2 := by
  have asked : b'.answer provider (.extract m roster) =
      (provider m roster, { b' with consultations := b'.consultations ++ [⟨m, roster⟩] }) := rfl
  change Ends provider id b (Program.run provider (.call (.extract m roster) _) b').1
    (Program.run provider (.call (.extract m roster) _) b').2
  rw [Program.run_call, asked]
  cases answer : provider m roster with
  | error e => exact ends_giveUp .extraction (by decide) e same
  | ok findings =>
    exact ends_save answer same (congrArg (fun past => past ++ [Consultation.mk m roster]) unasked)

private theorem load_aside (b : Backend) (provider : Provider) (id : Uuid) :
    ((load id).run provider b).2.view = b.view ∧
      ((load id).run provider b).2.consultations = b.consultations := by
  have calls : (load id).Calls Call.IsAside := by
    intro xs o h x hx
    rcases (load_exchanges h).1 x hx with hc | hc <;> rw [hc] <;> trivial
  have step : ∀ (t : Backend) (c : Call), c.IsAside →
      t.view = b.view ∧ t.consultations = b.consultations →
      (t.answer provider c).2.view = b.view ∧
        (t.answer provider c).2.consultations = b.consultations := by
    intro t c hc h
    obtain ⟨view, consultations⟩ := t.answer_of_isAside provider hc
    exact ⟨view.trans h.1, consultations.trans h.2⟩
  exact calls.run_keeps step ⟨rfl, rfl⟩

private theorem ends_advance (same : b'.view = b.view)
    (unasked : b'.consultations = b.consultations) :
    Ends provider id b ((advance id).run provider b').1 ((advance id).run provider b').2 := by
  obtain ⟨view, consultations⟩ := load_aside b' provider id
  cases loaded : (load id).run provider b' with
  | mk r b₁ =>
    rw [loaded] at view consultations
    unfold Attempt.run at loaded
    rw [advance, Program.run_bind, loaded]
    cases r with
    | error e => exact ends_giveUp .loading (by decide) e (view.trans same)
    | ok loaded => exact ends_consult (view.trans same) (consultations.trans unasked)

private theorem ends_process (b : Backend) (provider : Provider) (id : Uuid) :
    Ends provider id b ((process id).run provider b).1 ((process id).run provider b).2 := by
  obtain ⟨view, consultations⟩ := b.answer_updateStatus_aside provider id .processing none
  have ran : (process id).run provider b =
      (if isRefusal (b.answer provider (beginCall id)).1 then .done .skipped
        else advance id).run provider (b.answer provider (beginCall id)).2 := rfl
  rw [ran]
  cases isRefusal (b.answer provider (beginCall id)).1 with
  | true => exact .skipped view
  | false => exact ends_advance view consultations

/-- What has been added to the tables that a merge writes to is what the merge of some findings has
added that nothing disturbs: all of it that is written up to some call, and so of each table the
beginning. -/
structure AddsPart (provider : Provider) (id : Uuid) (findings : List Finding) (b b' : Backend) :
    Prop where
  reached : ∃ rest r, Program.Reaches provider (ExceptT.run (Merge.apply id findings))
      { b with faults := [] } rest r ∧ b'.store.opportunities = r.store.opportunities ∧
    b'.store.themes = r.store.themes ∧ b'.store.evidence = r.store.evidence
  opportunities : b'.store.opportunities <+:
    ((Merge.apply id findings).run provider { b with faults := [] }).2.store.opportunities
  themes : b'.store.themes <+:
    ((Merge.apply id findings).run provider { b with faults := [] }).2.store.themes
  evidence : b'.store.evidence <+:
    ((Merge.apply id findings).run provider { b with faults := [] }).2.store.evidence

private theorem addsPart_of_merged {findings : List Finding} {b₁ : Backend}
    (same : b₁.view = b.view)
    (merged : b'.view = ((Merge.apply id findings).run provider b₁).2.view) :
    AddsPart provider id findings b b' := by
  have keepsUp : (Merge.apply id findings).KeepsUp provider := Merge.keepsUp_apply id findings
  obtain ⟨rest, r, reached, view, _⟩ := keepsUp b₁ { b with faults := [] } same rfl
  have tables := merged.trans view
  have later :
      r.store.Leads ((Merge.apply id findings).run provider { b with faults := [] }).2.store := by
    rw [Attempt.run, reached.run]
    exact rest.leads_run provider r
  have opportunities : b'.store.opportunities = r.store.opportunities :=
    congrArg View.opportunities tables
  have themes : b'.store.themes = r.store.themes := congrArg View.themes tables
  have evidence : b'.store.evidence = r.store.evidence := congrArg View.evidence tables
  exact ⟨⟨rest, r, reached, opportunities, themes, evidence⟩, opportunities ▸ later.opportunities,
    themes ▸ later.themes, evidence ▸ later.evidence⟩

/-- What a job of a meeting touches that ends with this outcome: only what belongs to the meeting.
It adds nothing when it ends before it has findings to save, and when saving them fails the rows
with which their merge would have begun. -/
structure KeepsToItsOwn (provider : Provider) (id : Uuid) (b : Backend) (o : Outcome)
    (b' : Backend) : Prop where
  confined : b.Confined id b'
  early : ∀ e, o = .skipped ∨ o = .failed (Stage.loading.failure e) ∨
      o = .failed (Stage.extraction.failure e) →
    b'.store.opportunities = b.store.opportunities ∧ b'.store.themes = b.store.themes ∧
      b'.store.evidence = b.store.evidence
  unsaved : ∀ e, o = .failed (Stage.saving.failure e) → ∃ m roster findings,
    b'.consultations = b.consultations ++ [⟨m, roster⟩] ∧ provider m roster = .ok findings ∧
      AddsPart provider id findings b b'

/-- Whichever calls of a job fail, it keeps to its own. -/
theorem process_keepsToItsOwn (b : Backend) (provider : Provider) (id : Uuid) :
    KeepsToItsOwn provider id b ((process id).run provider b).1
      ((process id).run provider b).2 := by
  have confined := b.confined_process provider id
  have ends := ends_process b provider id
  generalize ((process id).run provider b).1 = o,
    ((process id).run provider b).2 = b' at ends confined ⊢
  have nothing : b'.view = b.view → b'.store.opportunities = b.store.opportunities ∧
      b'.store.themes = b.store.themes ∧ b'.store.evidence = b.store.evidence := fun same =>
    ⟨congrArg View.opportunities same, congrArg View.themes same, congrArg View.evidence same⟩
  refine ⟨confined, fun e early => ?_, fun e failed => ?_⟩
  · cases ends with
    | skipped same | failed _ same => exact nothing same
    | unmerged =>
      rcases early with skipped | loading | extraction
      · cases skipped
      · cases Stage.eq_of_failure (Outcome.failed.inj loading)
      · cases Stage.eq_of_failure (Outcome.failed.inj extraction)
    | done => rcases early with early | early | early <;> cases early
  · cases ends with
    | skipped | done => cases failed
    | failed early =>
      exact (early (Stage.eq_of_failure (Outcome.failed.inj failed))).elim
    | unmerged answer same asked merged =>
      exact ⟨_, _, _, asked, answer, addsPart_of_merged same merged⟩

/-- The second of two quotes cannot be added. -/
example :
    let provider : Provider := fun _ _ => .ok [.proposed ⟨"Admins", "Invoices are wrong", none,
      none, some "Billing", [⟨"It took weeks", none⟩, ⟨"Twice this year", none⟩]⟩]
    let lost : Fault := ⟨.addEvidence, 1, 1, .failure (.database "connection lost")⟩
    let ended := (process ⟨1⟩).run provider { Backend.oneQueued with faults := [lost] }
    ended.1 = .failed "Failed to save opportunities: Database error: connection lost" ∧
      ended.2.store.themes.map Theme.name = ["billing"] ∧
      ended.2.store.evidence.map Evidence.words = [("It took weeks", none)] := by
  decide +kernel

end Job

end MeetingInsights
