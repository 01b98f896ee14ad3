import MeetingInsights.Proofs.DisturbedMerges
import MeetingInsights.Proofs.MergeDecisions

/-! # Evidence for matched opportunities

A merge that succeeds lists the opportunity of every match, also of one that has nothing to tell. The
opportunities that receive evidence are said here of the findings alone; under faults too, since a
merge that succeeds in spite of them has written what it writes without them.
-/

namespace MeetingInsights.Merge

variable {b b' : Backend} {provider : Provider} {meeting next id : Uuid} {fs : List Finding}
  {s : Summary}

/-- Between two stores evidence from a meeting has been added for an opportunity, which is stored. -/
def HasReceived (meeting : Uuid) (s t : Store) (id : Uuid) : Prop :=
  id ∈ t.opportunities.map OpportunityRecord.id ∧
    ∃ rows, t.evidence = s.evidence ++ rows ∧ ∃ e ∈ rows, e.opportunityId = id ∧ e.meetingId = meeting

/-- Findings tell something of an opportunity: a match that refers to it has a quote that is not
blank, or the proposal has one that has made it. -/
def Tells (made : List Uuid) (fs : List Finding) (id : Uuid) : Prop :=
  (∃ m, .matched m ∈ fs ∧ m.id? = some id ∧ Quote.telling m.quotes ≠ []) ∨
    ∃ p, (id, p) ∈ made.zip (proposals fs) ∧ Quote.telling p.quotes ≠ []

theorem mem_keysFor_iff (meeting : Uuid) {opportunity : Uuid} {qs : List Quote} :
    (∃ words, (id, meeting, words) ∈ keysFor opportunity meeting qs) ↔
      opportunity = id ∧ Quote.telling qs ≠ [] := by
  constructor
  · rintro ⟨words, due⟩
    obtain ⟨q, hq, same⟩ := List.mem_map.mp due
    exact ⟨congrArg Prod.fst same, List.ne_nil_of_mem hq⟩
  · rintro ⟨rfl, telling⟩
    obtain ⟨q, hq⟩ := List.exists_mem_of_ne_nil _ telling
    exact ⟨q.words, List.mem_map_of_mem hq⟩

private theorem tells_proposed_iff {made : List Uuid} {p : Proposal} :
    Tells (next :: made) (.proposed p :: fs) id ↔
      (next = id ∧ Quote.telling p.quotes ≠ []) ∨ Tells made fs id := by
  have all : proposals (.proposed p :: fs) = p :: proposals fs := rfl
  simp only [Tells, all, List.zip_cons_cons, List.mem_cons, Prod.mk.injEq, reduceCtorEq, false_or]
  grind

private theorem tells_matched_iff {made : List Uuid} {m : Match} :
    Tells made (.matched m :: fs) id ↔
      (m.id? = some id ∧ Quote.telling m.quotes ≠ []) ∨ Tells made fs id := by
  have same : proposals (.matched m :: fs) = proposals fs := rfl
  simp only [Tells, same, List.mem_cons, Finding.matched.injEq]
  grind

/-- Evidence is due for the opportunities of which the findings tell something. -/
theorem mem_evidenceDue_iff (meeting : Uuid) :
    (∃ words, (id, meeting, words) ∈ evidenceDue meeting next fs) ↔
      Tells (next.upcoming (proposals fs).length) fs id := by
  induction fs generalizing next with
  | nil => simp [evidenceDue, Tells, proposals]
  | cons f fs ih =>
    cases f with
    | proposed p =>
      have made : next.upcoming (proposals (.proposed p :: fs)).length =
          next :: next.next.upcoming (proposals fs).length := rfl
      rw [made, tells_proposed_iff, ← mem_keysFor_iff meeting, ← ih]
      simp only [evidenceDue, List.mem_append, exists_or]
    | matched m =>
      have made : next.upcoming (proposals (.matched m :: fs)).length =
          next.upcoming (proposals fs).length := rfl
      rw [made, tells_matched_iff, ← ih]
      cases hid : m.id? with
      | none => simp [evidenceDue, hid]
      | some opportunity =>
        rw [Option.some.injEq, ← mem_keysFor_iff meeting]
        simp only [evidenceDue, hid, List.mem_append, exists_or]

theorem meeting_of_evidenceDue {key : EvidenceKey} (due : key ∈ evidenceDue meeting next fs) :
    key.2.1 = meeting := by
  have keys : ∀ {opportunity qs}, key ∈ keysFor opportunity meeting qs → key.2.1 = meeting := by
    intro opportunity qs due
    obtain ⟨q, _, rfl⟩ := List.mem_map.mp due
    rfl
  induction fs generalizing next with
  | nil => cases due
  | cons f fs ih =>
    cases f with
    | proposed p => exact (List.mem_append.mp due).elim keys ih
    | matched m =>
      cases hid : m.id? with
      | none =>
        simp only [evidenceDue, hid, List.nil_append] at due
        exact ih due
      | some opportunity =>
        simp only [evidenceDue, hid] at due
        exact (List.mem_append.mp due).elim keys ih

theorem length_evidenceDue (refer : ∀ m, .matched m ∈ fs → ∃ id, m.id? = some id) :
    (evidenceDue meeting next fs).length =
      (Quote.telling (fs.flatMap Finding.quotes)).length := by
  have keys : ∀ opportunity qs,
      (keysFor opportunity meeting qs).length = (Quote.telling qs).length :=
    fun _ _ => List.length_map _
  induction fs generalizing next with
  | nil => rfl
  | cons f fs ih =>
    rw [List.flatMap_cons, Quote.telling_append, List.length_append]
    have rest : ∀ next, (evidenceDue meeting next fs).length =
        (Quote.telling (fs.flatMap Finding.quotes)).length :=
      fun _ => ih fun m hm => refer m (List.mem_cons_of_mem _ hm)
    cases f with
    | proposed p =>
      rw [evidenceDue, List.length_append, keys, rest]
      rfl
    | matched m =>
      obtain ⟨id, hid⟩ := refer m List.mem_cons_self
      simp only [evidenceDue, hid, List.length_append, keys, rest]
      rfl

private theorem Admits.mem_of_tells (h : Admits b meeting fs)
    (tells : Tells (b.supply.opportunity.upcoming (proposals fs).length) fs id) :
    id ∈ b.store.opportunities.map OpportunityRecord.id ++
      b.supply.opportunity.upcoming (proposals fs).length := by
  rcases tells with ⟨m, hm, refers, telling⟩ | ⟨p, hp, _⟩
  · obtain ⟨before, after, rfl⟩ := List.append_of_mem hm
    obtain ⟨id', refers', there⟩ := h.references before m after rfl
    obtain rfl : id' = id := Option.some.inj (refers'.symm.trans refers)
    have more : proposals (before ++ .matched m :: after) = proposals before ++ proposals after :=
      List.filterMap_append
    rw [more, List.length_append, Uuid.upcoming_add, ← List.append_assoc]
    exact List.mem_append_left _ (there telling)
  · exact List.mem_append_right _ (List.of_mem_zip hp).1

/-- A merge that succeeds, whatever faults it meets with, has applied all findings. -/
theorem written_of_ok (ran : (apply meeting fs).run provider b = (.ok s, b')) :
    Admits b meeting fs ∧ s = told b.supply.opportunity fs ∧
      ∃ r : Backend, b'.view = r.view ∧ Written (proposals fs)
        (evidenceDue meeting b.supply.opportunity fs) { b with faults := [] } r := by
  have keepsUp : (apply meeting fs).KeepsUp provider := keepsUp_apply meeting fs
  obtain ⟨rest, r, reached, view, _, ended⟩ := keepsUp b { b with faults := [] } rfl rfl
  rw [ran] at view ended
  obtain rfl := ended s rfl
  have undisturbed : (apply meeting fs).run provider { b with faults := [] } = (.ok s, r) :=
    reached.run
  have admits : Admits { b with faults := [] } meeting fs := by
    by_contra refused
    obtain ⟨e, b'', failed⟩ := run_apply_of_not_admits rfl refused provider
    rw [undisturbed] at failed
    cases failed
  obtain ⟨r', done, written⟩ := run_apply rfl admits provider
  rw [undisturbed] at done
  obtain ⟨all, rfl⟩ := Prod.mk.inj done
  exact ⟨⟨admits.references, admits.meeting⟩, Except.ok.inj all, r, view, written⟩

/-- A merge that succeeds lists the opportunity of every match. It has added evidence for those of
which the findings tell something, and for no others. -/
theorem received_iff_tells (ran : (apply meeting fs).run provider b = (.ok s, b')) :
    s.matched = fs.filterMap Finding.matchedId? ∧
      ∀ id, HasReceived meeting b.store b'.store id ↔ Tells s.created fs id := by
  obtain ⟨admits, rfl, r, view, written⟩ := written_of_ok ran
  have opportunities : b'.store.opportunities = r.store.opportunities :=
    congrArg View.opportunities view
  have evidence : b'.store.evidence = r.store.evidence := congrArg View.evidence view
  obtain ⟨rows, added, due⟩ := written.evidence
  refine ⟨rfl, fun id => ⟨?_, fun tells => ⟨?_, rows, evidence.trans added, ?_⟩⟩⟩
  · rintro ⟨_, rows', added', e, he, rfl, rfl⟩
    obtain rfl : rows' = rows :=
      List.append_cancel_left (added'.symm.trans (evidence.trans added))
    have key : keyOf e ∈ rows'.map keyOf := List.mem_map_of_mem he
    rw [due] at key
    exact (mem_evidenceDue_iff _).mp ⟨e.words, key⟩
  · have identifiers := written.identifiers 0
    simp only [Nat.add_zero, Uuid.upcoming, List.iterate, List.append_nil] at identifiers
    rw [opportunities, identifiers]
    exact admits.mem_of_tells tells
  · obtain ⟨words, key⟩ := (mem_evidenceDue_iff _).mpr tells
    rw [← due] at key
    obtain ⟨e, he, same⟩ := List.mem_map.mp key
    obtain ⟨opportunity, rest⟩ := Prod.mk.inj same
    exact ⟨e, he, opportunity, (Prod.mk.inj rest).1⟩

theorem received_of_heard :
    HasReceived default stocked.store ((apply default heard).run (fun _ _ => .ok []) stocked).2.store
      default := by
  have succeeds : ((apply default heard).run (fun _ _ => .ok []) stocked).1 =
      .ok ⟨[Uuid.next default], [default], 2, 1⟩ := by decide +kernel
  refine ((received_iff_tells (Prod.ext succeeds rfl)).2 default).mpr (.inl ?_)
  exact ⟨_, List.mem_cons_of_mem _ (List.mem_singleton_self _), by decide +kernel,
    by decide +kernel⟩

/-- A match without quotes is listed, even if there is no such opportunity. -/
theorem not_all_matched_receive :
    ¬ ∀ (b : Backend) (provider : Provider) (meeting : Uuid) (fs : List Finding) (s : Summary)
      (b' : Backend), (apply meeting fs).run provider b = (.ok s, b') →
      ∀ id ∈ s.matched, HasReceived meeting b.store b'.store id := by
  intro h
  have succeeds : ((apply default [.matched ⟨some (Uuid.toText default), []⟩]).run
      (fun _ _ => .ok []) Backend.vacant).1 = .ok ⟨[], [default], 0, 0⟩ := by decide +kernel
  obtain ⟨there, _⟩ := h .vacant _ default _ _ _ (Prod.ext succeeds rfl) default
    (List.mem_singleton_self _)
  revert there
  decide +kernel

end MeetingInsights.Merge
