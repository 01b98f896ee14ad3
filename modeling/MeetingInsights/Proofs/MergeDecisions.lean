import MeetingInsights.Proofs.MergeWrites

/-! # What a merge decides

Whether a merge that nothing disturbs succeeds can be told from its findings and the store, and so
can every row that it appends when it does.
-/

namespace MeetingInsights

/-- The next `n` identifiers from this one on differ from each other and from those in use. -/
structure Uuid.StartsNew (u : Uuid) (n : Nat) (used : List Uuid) : Prop where
  nodup : (u.upcoming n).Nodup
  unused : ∀ id ∈ u.upcoming n, id ∉ used

instance (u : Uuid) (n : Nat) (used : List Uuid) : Decidable (u.StartsNew n used) :=
  decidable_of_iff ((u.upcoming n).Nodup ∧ ∀ id ∈ u.upcoming n, id ∉ used)
    ⟨fun ⟨nodup, unused⟩ => ⟨nodup, unused⟩, fun h => ⟨h.nodup, h.unused⟩⟩

theorem Uuid.StartsNew.nodup_append {u : Uuid} {m n : Nat} {used : List Uuid}
    (h : u.StartsNew n used) (le : m ≤ n) (distinct : used.Nodup) :
    (used ++ u.upcoming m).Nodup := by
  have begins : u.upcoming m <+: u.upcoming n := by
    obtain ⟨k, rfl⟩ := Nat.exists_eq_add_of_le le
    exact ⟨_, (Uuid.upcoming_add u m k).symm⟩
  refine distinct.append (h.nodup.sublist begins.sublist) ?_
  intro id inUse comes
  exact h.unused id (begins.subset comes) inUse

namespace Merge

variable {b b₁ b' : Backend} {meeting : Uuid} {f : Finding} {fs : List Finding}

/-- What a merge tells that has applied all findings, with the opportunities that it has made. -/
def summaryOf (made : List Uuid) (fs : List Finding) : Summary where
  created := made
  matched := fs.filterMap Finding.matchedId?
  evidenceAdded := (Quote.telling (fs.flatMap Finding.quotes)).length
  evidenceSkipped := (Quote.blank (fs.flatMap Finding.quotes)).length

/-- What a merge tells that has applied all findings, when its opportunities get `next` and the
identifiers that follow it. -/
def told (next : Uuid) (fs : List Finding) : Summary where
  created := next.upcoming (proposals fs).length
  matched := fs.filterMap Finding.matchedId?
  evidenceAdded := (Quote.telling (fs.flatMap Finding.quotes)).length
  evidenceSkipped := (Quote.blank (fs.flatMap Finding.quotes)).length

/-- A merge can apply all findings: every match refers to an opportunity, which exists when the match
is reached if there is something to say of it, and the meeting exists if there is anything to say. -/
structure Admits (b : Backend) (meeting : Uuid) (fs : List Finding) : Prop where
  references : ∀ before m after, fs = before ++ .matched m :: after →
    ∃ id, m.id? = some id ∧ (Quote.telling m.quotes ≠ [] →
      id ∈ b.store.opportunities.map OpportunityRecord.id ++
        b.supply.opportunity.upcoming (proposals before).length)
  meeting : Quote.telling (fs.flatMap Finding.quotes) ≠ [] →
    (b.store.meetings.find? meeting).isSome

theorem proposals_cons (f : Finding) (fs : List Finding) :
    proposals (f :: fs) = proposals [f] ++ proposals fs :=
  List.filterMap_append (l := [f])

theorem summaryOf_cons (made more : List Uuid) (f : Finding) (fs : List Finding) :
    summaryOf made [f] ++ summaryOf more fs = summaryOf (made ++ more) (f :: fs) := by
  change Summary.append _ _ = _
  simp only [Summary.append, summaryOf, List.flatMap_cons, List.flatMap_nil, List.append_nil,
    Quote.telling_append, Quote.blank, List.filter_append, List.length_append,
    ← List.filterMap_append, List.singleton_append]

private theorem told_eq_summaryOf (next : Uuid) (fs : List Finding) :
    told next fs = summaryOf (next.upcoming (proposals fs).length) fs := rfl

private theorem told_cons (next : Uuid) (f : Finding) (fs : List Finding) :
    told next [f] ++ told (Uuid.next^[(proposals [f]).length] next) fs = told next (f :: fs) := by
  simp only [told_eq_summaryOf, summaryOf_cons, proposals_cons f fs, List.length_append,
    Uuid.upcoming_add]

private theorem evidenceDue_cons (meeting next : Uuid) (f : Finding) (fs : List Finding) :
    evidenceDue meeting next [f] ++
        evidenceDue meeting (Uuid.next^[(proposals [f]).length] next) fs =
      evidenceDue meeting next (f :: fs) := by
  cases f with
  | proposed p =>
    simp only [evidenceDue, List.append_nil]
    rfl
  | matched m =>
    simp only [evidenceDue, List.append_nil]
    rfl

theorem Written.identifiers {ps : List Proposal} {due : List EvidenceKey}
    (w : Written ps due b b') (n : Nat) :
    b'.store.opportunities.map OpportunityRecord.id ++ b'.supply.opportunity.upcoming n =
      b.store.opportunities.map OpportunityRecord.id ++
        b.supply.opportunity.upcoming (ps.length + n) := by
  obtain ⟨rows, hrows, hids, _⟩ := w.opportunities
  rw [hrows, List.map_append, hids, w.supply, List.append_assoc, ← Uuid.upcoming_add]

theorem telling_flatMap_cons (f : Finding) (fs : List Finding) :
    Quote.telling ((f :: fs).flatMap Finding.quotes) ≠ [] ↔
      Quote.telling ([f].flatMap Finding.quotes) ≠ [] ∨
        Quote.telling (fs.flatMap Finding.quotes) ≠ [] := by
  rw [List.flatMap_cons, Quote.telling_append, List.flatMap_singleton, ne_eq,
    List.append_eq_nil_iff, not_and_or]

theorem Admits.head (h : Admits b meeting (f :: fs)) : Admits b meeting [f] where
  references before m after hfs := by
    refine h.references before m (after ++ fs) ?_
    rw [← List.cons_append, ← List.append_assoc, ← hfs, List.singleton_append]
  meeting hq := h.meeting ((telling_flatMap_cons f fs).mpr (.inl hq))

theorem admits_cons_iff {due : List EvidenceKey} (w : Written (proposals [f]) due b b₁) :
    Admits b meeting (f :: fs) ↔ Admits b meeting [f] ∧ Admits b₁ meeting fs := by
  have shift : ∀ before : List Finding,
      b₁.store.opportunities.map OpportunityRecord.id ++
          b₁.supply.opportunity.upcoming (proposals before).length =
        b.store.opportunities.map OpportunityRecord.id ++
          b.supply.opportunity.upcoming (proposals (f :: before)).length := by
    intro before
    rw [w.identifiers, proposals_cons f before, List.length_append]
  constructor
  · intro h
    refine ⟨h.head, fun before m after hfs => ?_, fun hq => ?_⟩
    · rw [shift]
      exact h.references (f :: before) m after (by rw [hfs, List.cons_append])
    · rw [w.meetings]
      exact h.meeting ((telling_flatMap_cons f fs).mpr (.inr hq))
  · rintro ⟨first, rest⟩
    refine ⟨fun before m after hfs => ?_, fun hq => ?_⟩
    · cases before with
      | nil =>
        obtain ⟨rfl, rfl⟩ := List.cons.inj hfs
        exact first.references [] m [] rfl
      | cons g before =>
        obtain ⟨rfl, hrest⟩ := List.cons.inj hfs
        rw [← shift]
        exact rest.references before m after hrest
    · rcases (telling_flatMap_cons f fs).mp hq with hq | hq
      · exact first.meeting hq
      · exact w.meetings ▸ rest.meeting hq

theorem admits_proposed_iff {p : Proposal} :
    Admits b meeting [.proposed p] ↔
      (Quote.telling p.quotes ≠ [] → (b.store.meetings.find? meeting).isSome) := by
  have quotes : [Finding.proposed p].flatMap Finding.quotes = p.quotes := List.flatMap_singleton _ _
  constructor
  · intro h
    exact quotes ▸ h.meeting
  · intro h
    refine ⟨fun before m after hfs => ?_, quotes ▸ h⟩
    cases before <;> simp at hfs

theorem admits_matched_iff {m : Match} :
    Admits b meeting [.matched m] ↔
      ∃ id, m.id? = some id ∧ (Quote.telling m.quotes ≠ [] → Holds b id meeting) := by
  have quotes : [Finding.matched m].flatMap Finding.quotes = m.quotes := List.flatMap_singleton _ _
  constructor
  · intro h
    obtain ⟨id, hid, there⟩ := h.references [] m [] rfl
    refine ⟨id, hid, fun hq => ⟨?_, h.meeting (quotes ▸ hq)⟩⟩
    simpa [proposals, Uuid.upcoming, opportunityRecord?_isSome_iff] using there hq
  · rintro ⟨id, hid, holds⟩
    refine ⟨fun before m' after hfs => ?_, fun hq => (holds (quotes ▸ hq)).2⟩
    cases before with
    | nil =>
      obtain ⟨hm, rfl⟩ := List.cons.inj hfs
      obtain rfl : m = m' := by simpa using hm
      exact ⟨id, hid, fun hq =>
        List.mem_append_left _ (opportunityRecord?_isSome_iff.mp (holds hq).1)⟩
    | cons g before => simp at hfs

theorem reference_eq_ok_iff {m : Match} {id : Uuid} : reference m = .ok id ↔ m.id? = some id := by
  unfold reference Match.id?
  cases m.reference with
  | none => simp
  | some raw => cases h : Uuid.parse? (Text.trim raw) <;> simp [h]

theorem summaryOf_proposed (id : Uuid) (p : Proposal) :
    .ofCreated id ++ attached p.quotes = summaryOf [id] [.proposed p] := by
  change Summary.append _ _ = _
  simp [Summary.append, Summary.ofCreated, Summary.empty, attached, summaryOf,
    Finding.matchedId?, Finding.quotes]

theorem summaryOf_matched {m : Match} {id : Uuid} (hid : m.id? = some id) :
    .ofMatched id ++ attached m.quotes = summaryOf [] [.matched m] := by
  change Summary.append _ _ = _
  simp [Summary.append, Summary.ofMatched, Summary.empty, attached, summaryOf,
    Finding.matchedId?, Finding.quotes, hid]

private theorem told_proposed (next : Uuid) (p : Proposal) :
    .ofCreated next ++ attached p.quotes = told next [.proposed p] := summaryOf_proposed next p

private theorem told_matched (next : Uuid) {m : Match} {id : Uuid} (hid : m.id? = some id) :
    .ofMatched id ++ attached m.quotes = told next [.matched m] := summaryOf_matched hid

theorem run_applyFinding (calm : b.faults = []) (h : Admits b meeting [f]) (provider : Provider) :
    ∃ b', (applyFinding meeting f).run provider b = (.ok (told b.supply.opportunity [f]), b') ∧
      Written (proposals [f]) (evidenceDue meeting b.supply.opportunity [f]) b b' := by
  cases f with
  | proposed p =>
    obtain ⟨b₁, made, written⟩ := run_createOpportunity calm p provider
    have holds : Quote.telling p.quotes ≠ [] → Holds b₁ b.supply.opportunity meeting := by
      intro hq
      refine ⟨opportunityRecord?_isSome_iff.mpr ?_, written.meetings ▸ admits_proposed_iff.mp h hq⟩
      obtain ⟨rows, hrows, hids, _⟩ := written.opportunities
      rw [hrows, List.map_append, hids]
      exact List.mem_append_right _ (List.mem_singleton_self _)
    obtain ⟨b', rest, written'⟩ := run_attachQuotes (written.faults.trans calm) holds provider
    refine ⟨b', ?_, ?_⟩
    · rw [← told_proposed]
      exact run_sequence made rest
    · simpa [evidenceDue, proposals, Finding.proposal?] using written.append written'
  | matched m =>
    obtain ⟨id, hid, holds⟩ := admits_matched_iff.mp h
    have referred : Attempt.run provider (reference m : Except Error Uuid) b = (.ok id, b) :=
      congrArg (·, b) (reference_eq_ok_iff.mpr hid)
    obtain ⟨b', rest, written⟩ := run_attachQuotes calm holds provider
    refine ⟨b', ?_, ?_⟩
    · rw [← told_matched _ hid]
      exact run_sequence referred rest
    · have due : evidenceDue meeting b.supply.opportunity [.matched m] =
          keysFor id meeting m.quotes := by
        simp [evidenceDue, hid]
      rw [due]
      exact written

private theorem run_applyFinding_of_not_admits (calm : b.faults = []) (h : ¬ Admits b meeting [f])
    (provider : Provider) :
    ∃ e b', (applyFinding meeting f).run provider b = (.error e, b') := by
  cases f with
  | proposed p =>
    obtain ⟨b₁, made, written⟩ := run_createOpportunity calm p provider
    obtain ⟨hq, absent⟩ := Classical.not_imp.mp (mt admits_proposed_iff.mpr h)
    have lacks : ¬ Holds b₁ b.supply.opportunity meeting := fun ⟨_, there⟩ =>
      absent (written.meetings ▸ there)
    obtain ⟨e, b', rest⟩ :=
      run_attachQuotes_of_not_holds (written.faults.trans calm) lacks hq provider
    exact ⟨e, b', run_sequence_of_error made rest⟩
  | matched m =>
    have refused := mt admits_matched_iff.mpr h
    cases hr : reference m with
    | error e =>
      have referred : Attempt.run provider (reference m : Except Error Uuid) b = (.error e, b) :=
        congrArg (·, b) hr
      exact ⟨e, b, Attempt.run_bind_of_error referred _⟩
    | ok id =>
      have referred : Attempt.run provider (reference m : Except Error Uuid) b = (.ok id, b) :=
        congrArg (·, b) hr
      obtain ⟨hq, lacks⟩ := Classical.not_imp.mp fun holds =>
        refused ⟨id, reference_eq_ok_iff.mp hr, holds⟩
      obtain ⟨e, b', rest⟩ := run_attachQuotes_of_not_holds calm lacks hq provider
      exact ⟨e, b', run_sequence_of_error referred rest⟩

/-- A merge that can apply all findings does so, and writes what is due for them. -/
theorem run_apply (calm : b.faults = []) (h : Admits b meeting fs) (provider : Provider) :
    ∃ b', (apply meeting fs).run provider b = (.ok (told b.supply.opportunity fs), b') ∧
      Written (proposals fs) (evidenceDue meeting b.supply.opportunity fs) b b' := by
  induction fs generalizing b with
  | nil => exact ⟨b, rfl, .refl b⟩
  | cons f fs ih =>
    obtain ⟨b₁, made, written⟩ := run_applyFinding calm h.head provider
    obtain ⟨b', rest, written'⟩ :=
      ih (written.faults.trans calm) ((admits_cons_iff written).mp h).2
    rw [written.supply] at rest written'
    refine ⟨b', ?_, ?_⟩
    · rw [← told_cons]
      exact run_sequence made rest
    · rw [proposals_cons, ← evidenceDue_cons]
      exact written.append written'

theorem run_apply_of_not_admits (calm : b.faults = []) (h : ¬ Admits b meeting fs)
    (provider : Provider) :
    ∃ e b', (apply meeting fs).run provider b = (.error e, b') := by
  induction fs generalizing b with
  | nil => exact (h ⟨fun before m after hfs => by simp at hfs, fun hq => (hq rfl).elim⟩).elim
  | cons f fs ih =>
    by_cases first : Admits b meeting [f]
    · obtain ⟨b₁, made, written⟩ := run_applyFinding calm first provider
      have later : ¬ Admits b₁ meeting fs := fun rest =>
        h ((admits_cons_iff written).mpr ⟨first, rest⟩)
      obtain ⟨e, b', rest⟩ := ih (written.faults.trans calm) later
      exact ⟨e, b', run_sequence_of_error made rest⟩
    · obtain ⟨e, b', failed⟩ := run_applyFinding_of_not_admits calm first provider
      exact ⟨e, b', Attempt.run_bind_of_error failed _⟩

/-- The store once all findings have been applied, said of the findings alone: the opportunities of
the proposals, the themes whose names were not taken, and the evidence of the quotes that tell
something are there, each in the order of the findings, and nothing else has changed. -/
structure Applied (b : Backend) (meeting : Uuid) (fs : List Finding) (s : Summary) (b' : Backend) :
    Prop where
  summary : s = told b.supply.opportunity fs
  meetings : b'.store.meetings = b.store.meetings
  opportunities : ∃ rows, b'.store.opportunities = b.store.opportunities ++ rows ∧
    rows.map OpportunityRecord.id = s.created ∧
    List.Forall₂ (fun p o => Repeats p o ∧ b'.store.themeNameOf o = p.themeName?)
      (proposals fs) rows
  themes : ∃ rows, b'.store.themes = b.store.themes ++ rows ∧
    rows.map Theme.name =
      Theme.newNames (b.store.themes.map Theme.name) ((proposals fs).filterMap Proposal.themeName?)
  evidence : ∃ rows, b'.store.evidence = b.store.evidence ++ rows ∧
    rows.map keyOf = evidenceDue meeting b.supply.opportunity fs
  distinct : b'.store.Distinct

theorem Files.themeNameOf {s : Store} (distinct : (s.themes.map Theme.id).Nodup)
    {name : Option String} {o : OpportunityRecord} (h : Files s name o.themeId) :
    s.themeNameOf o = name := by
  unfold Store.themeNameOf
  generalize o.themeId = id at h
  cases h with
  | none => rfl
  | @some name id found =>
    obtain ⟨t, ht, rfl⟩ := found
    obtain ⟨there, named⟩ := Store.findTheme?_eq_some ht
    rw [Option.bind_some, Store.themeById?_of_mem distinct there, Option.map_some, named]

theorem Written.distinct {ps : List Proposal} {due : List EvidenceKey} (w : Written ps due b b')
    (h : b.store.Distinct)
    (opportunities : b.supply.opportunity.StartsNew ps.length
      (b.store.opportunities.map OpportunityRecord.id))
    (themes : b.supply.theme.StartsNew ps.length (b.store.themes.map Theme.id)) :
    b'.store.Distinct := by
  obtain ⟨os, hos, oids, _⟩ := w.opportunities
  obtain ⟨ts, hts, tnames, tids, _⟩ := w.themes
  have few : ts.length ≤ ps.length := by
    calc ts.length = (ts.map Theme.name).length := (List.length_map _).symm
      _ ≤ (ps.filterMap Proposal.themeName?).length := tnames ▸ Theme.length_newNames_le _ _
      _ ≤ ps.length := List.length_filterMap_le _ _
  refine ⟨?_, ?_, ?_⟩
  · rw [hos, List.map_append, oids]
    exact opportunities.nodup_append (Nat.le_refl _) h.opportunities
  · rw [hts, List.map_append, tids]
    exact themes.nodup_append few h.themes
  · rw [hts, List.map_append, tnames]
    exact Theme.nodup_append_newNames h.names _

/-- From a store that can be reached, and with new identifiers in supply, a merge that no fault
disturbs succeeds exactly if it can apply all findings; then it has applied them. -/
theorem succeeds_iff_admits (calm : b.faults = []) (reachable : b.store.Reachable)
    (opportunities : b.supply.opportunity.StartsNew (proposals fs).length
      (b.store.opportunities.map OpportunityRecord.id))
    (themes : b.supply.theme.StartsNew (proposals fs).length (b.store.themes.map Theme.id))
    (meeting : Uuid) (provider : Provider) :
    ((∃ s b', (apply meeting fs).run provider b = (.ok s, b')) ↔ Admits b meeting fs) ∧
      ∀ s b', (apply meeting fs).run provider b = (.ok s, b') → Applied b meeting fs s b' := by
  have only : ∀ s b', (apply meeting fs).run provider b = (.ok s, b') → Admits b meeting fs := by
    intro s b' succeeded
    by_contra refused
    obtain ⟨e, b'', failed⟩ := run_apply_of_not_admits calm refused provider
    rw [failed] at succeeded
    cases succeeded
  refine ⟨⟨fun ⟨s, b', succeeded⟩ => only s b' succeeded, fun admitted => ?_⟩, ?_⟩
  · obtain ⟨b', done, _⟩ := run_apply calm admitted provider
    exact ⟨_, b', done⟩
  · intro s b' succeeded
    obtain ⟨b'', done, written⟩ := run_apply calm (only s b' succeeded) provider
    rw [done] at succeeded
    obtain ⟨rfl, rfl⟩ : told b.supply.opportunity fs = s ∧ b'' = b' := by simpa using succeeded
    have distinct := written.distinct reachable.distinct opportunities themes
    obtain ⟨os, hos, oids, osame⟩ := written.opportunities
    obtain ⟨ts, hts, tnames, _⟩ := written.themes
    exact
      { summary := rfl
        meetings := written.meetings
        opportunities := ⟨os, hos, oids, osame.imp fun p o ⟨same, files⟩ =>
          ⟨same, files.themeNameOf distinct.themes⟩⟩
        themes := ⟨ts, hts, tnames⟩
        evidence := written.evidence
        distinct := distinct }

def stocked : Backend :=
  [Call.createMeeting ⟨"Customer call", "notes", .manual, none⟩,
    .createTheme "billing",
    .createOpportunity ⟨"Admins", "Invoices are wrong", none, none, some default⟩].foldl
      (fun b c => (b.answer (fun _ _ => .ok []) c).2) .vacant

theorem reachable_stocked : stocked.store.Reachable :=
  .answer _ _ (.answer _ _ (.answer _ _ .empty (by decide)) (by decide)) (by decide)

def heard : List Finding :=
  [.proposed ⟨"Owners", "Invoices come late", none, none, some " Billing!", [⟨"It took weeks", some ""⟩]⟩,
    .matched ⟨some (Uuid.toText default), [⟨" ", none⟩, ⟨"Twice this year", some "Renewal"⟩]⟩]

theorem succeeds_of_heard :
    ((apply default heard).run (fun _ _ => .ok []) stocked).1 =
        .ok ⟨[Uuid.next default], [default], 2, 1⟩ ∧
      Admits stocked default heard ∧
      Applied stocked default heard ⟨[Uuid.next default], [default], 2, 1⟩
        ((apply default heard).run (fun _ _ => .ok []) stocked).2 := by
  have succeeds : ((apply default heard).run (fun _ _ => .ok []) stocked).1 =
      .ok ⟨[Uuid.next default], [default], 2, 1⟩ := by decide +kernel
  obtain ⟨decides, applied⟩ := succeeds_iff_admits (b := stocked) rfl reachable_stocked
    (by decide +kernel : Uuid.StartsNew _ (proposals heard).length _) (by decide +kernel) default
    fun _ _ => .ok []
  exact ⟨succeeds, decides.mp ⟨_, _, Prod.ext succeeds rfl⟩, applied _ _ (Prod.ext succeeds rfl)⟩

end Merge

end MeetingInsights
