import Mathlib.Data.List.Perm.Subperm
import MeetingInsights.Proofs.BackendRecords
import MeetingInsights.Proofs.MergeOutcomes
import MeetingInsights.Proofs.SharedTables

/-! # Merges side by side

The findings of several meetings are merged at once, the calls answered one at a time in any order.
When all merges are over, the store holds of each what its findings alone say, and nothing else.
-/

namespace MeetingInsights

/-- What an opportunity says, its identifiers and times aside. -/
structure Problem where
  userSegment : String
  struggle : String
  whyItMatters : Option String
  workaround : Option String
  themeName : Option String
deriving DecidableEq, Repr

def Proposal.problem (p : Proposal) : Problem :=
  ⟨p.userSegment, p.struggle, p.whyItMatters, p.workaround, p.themeName?⟩

def Store.problemOf (s : Store) (o : OpportunityRecord) : Problem :=
  ⟨o.userSegment, o.struggle, o.whyItMatters, o.workaround, s.themeNameOf o⟩

/-- The findings of a meeting. -/
structure Batch where
  meeting : Uuid
  findings : List Finding

namespace Batch

def program (x : Batch) : Program (Except Error Merge.Summary) :=
  ExceptT.run (Merge.apply x.meeting x.findings)

def references (x : Batch) : List Uuid := x.findings.filterMap Finding.matchedId?

end Batch

namespace Merge

abbrev Merges : Type := Interleaving (Except Error Summary)

/-- The merges of which none has made a call. -/
def merging (b : Backend) (batches : List Batch) : Merges :=
  .launched b (batches.map Batch.program)

/-- The merges after some turns. -/
def merged (provider : Provider) (b : Backend) (batches : List Batch)
    (turns : List (Nat × Conditions)) : Merges :=
  (merging b batches).run provider turns

namespace Merges

variable {w : Merges}

def made (w : Merges) (i : Nat) : List Uuid :=
  ((w.threads[i]?).map fun t => opportunitiesCreated t.past).getD []

def created (w : Merges) (i : Nat) : List OpportunityRecord :=
  w.backend.store.opportunities.filter fun o => o.id ∈ w.made i

theorem made_of_stands {i : Nat} {t : Thread (Except Error Summary)}
    (stands : w.threads[i]? = some t) : w.made i = opportunitiesCreated t.past := by
  simp [made, stands]

end Merges

/-- Between two stores new rows have got identifiers of their own, and no opportunity has got one
that a match refers to. -/
structure NewRows (batches : List Batch) (s t : Store) : Prop where
  opportunities : (t.opportunities.map OpportunityRecord.id).Nodup
  themes : (t.themes.map Theme.id).Nodup
  unreferred : ∀ id ∈ batches.flatMap Batch.references,
    id ∈ t.opportunities.map OpportunityRecord.id → id ∈ s.opportunities.map OpportunityRecord.id

instance (batches : List Batch) (s t : Store) : Decidable (NewRows batches s t) :=
  decidable_of_iff
    ((t.opportunities.map OpportunityRecord.id).Nodup ∧ (t.themes.map Theme.id).Nodup ∧
      ∀ id ∈ batches.flatMap Batch.references, id ∈ t.opportunities.map OpportunityRecord.id →
        id ∈ s.opportunities.map OpportunityRecord.id)
    ⟨fun ⟨o, t, u⟩ => ⟨o, t, u⟩, fun h => ⟨h.opportunities, h.themes, h.unreferred⟩⟩

/-- With these turns, none of which is disturbed, all merges come to their end. -/
structure Complete (provider : Provider) (b : Backend) (batches : List Batch)
    (turns : List (Nat × Conditions)) : Prop where
  calm : ∀ u ∈ turns, u.2.faults = []
  ended : ∀ i < batches.length, ((merged provider b batches turns).result? i).isSome
  rows : NewRows batches b.store (merged provider b batches turns).backend.store

instance (provider : Provider) (b : Backend) (batches : List Batch)
    (turns : List (Nat × Conditions)) : Decidable (Complete provider b batches turns) :=
  decidable_of_iff
    ((∀ u ∈ turns, u.2.faults = []) ∧
      (∀ i < batches.length, ((merged provider b batches turns).result? i).isSome) ∧
      NewRows batches b.store (merged provider b batches turns).backend.store)
    ⟨fun ⟨c, e, r⟩ => ⟨c, e, r⟩, fun h => ⟨h.calm, h.ended, h.rows⟩⟩

/-- What a call that is performed can write to the tables of opportunities, themes and evidence,
with its answer. -/
inductive Writes (b : Backend) : Exchange → Store → Prop where
  | nothing {x : Exchange} {s : Store} (noOpportunity : x.opportunity? = none)
      (noTheme : x.newTheme? = none) (noEvidence : x.evidence? = none)
      (opportunities : s.opportunities = b.store.opportunities)
      (themes : s.themes = b.store.themes) (evidence : s.evidence = b.store.evidence) : Writes b x s
  | opportunity (draft : OpportunityDraft) :
      Writes b ⟨.createOpportunity draft, .ok b.supply.opportunity⟩
        { b.store with opportunities := b.store.opportunities ++
            [OpportunityRecord.ofDraft draft b.supply.opportunity b.now] }
  | theme (name : String) :
      Writes b ⟨.createTheme name, .ok ⟨b.supply.theme, name, b.now⟩⟩
        { b.store with themes := b.store.themes ++ [⟨b.supply.theme, name, b.now⟩] }
  | evidence (draft : EvidenceDraft) :
      Writes b ⟨.addEvidence draft, .ok b.supply.evidence⟩
        { b.store with evidence := b.store.evidence ++
            [Evidence.ofDraft draft b.supply.evidence b.now] }

theorem writes_perform (b : Backend) (provider : Provider) (c : Call) :
    Writes b ⟨c, (b.perform provider c).1⟩ (b.perform provider c).2.store := by
  cases c with
  | createOpportunity draft =>
    simp only [Backend.perform, Store.createOpportunity]
    cases b.store.acceptsTheme draft.themeId with
    | true => exact .opportunity draft
    | false => exact .nothing rfl rfl rfl rfl rfl rfl
  | createTheme name =>
    simp only [Backend.perform, Store.createTheme]
    cases b.store.findTheme? name with
    | none => exact .theme name
    | some t => exact .nothing rfl rfl rfl rfl rfl rfl
  | addEvidence draft =>
    simp only [Backend.perform, Store.addEvidence]
    cases b.store.opportunityRecord? draft.opportunityId with
    | none => exact .nothing rfl rfl rfl rfl rfl rfl
    | some o =>
      cases b.store.meetings.find? draft.meetingId with
      | none => exact .nothing rfl rfl rfl rfl rfl rfl
      | some m => exact .evidence draft
  | updateStatus id status message =>
    simp only [Backend.perform]
    cases h : b.store.updateStatus id status message b.now with
    | error e => exact .nothing rfl rfl rfl rfl rfl rfl
    | ok s =>
      rw [(Store.updateStatus_eq_ok h).2.2]
      exact .nothing rfl rfl rfl rfl rfl rfl
  | createMeeting | fetchMeeting | idsByStatus | roster | findTheme | extract =>
    exact .nothing rfl rfl rfl rfl rfl rfl

/-- A disturbed call writes nothing, and its exchange records nothing. -/
theorem writes_answer (b : Backend) (provider : Provider) (c : Call) :
    Writes b ⟨c, (b.answer provider c).1⟩ (b.answer provider c).2.store := by
  rcases b.answer_cases provider c with ⟨faults, hb, disturbed⟩ | ⟨faults, h⟩
  · rw [hb]
    generalize (b.answer provider c).1 = r at disturbed
    rcases disturbed with ⟨e, rfl⟩ | ⟨name, rfl⟩
    · cases c <;> exact .nothing rfl rfl rfl rfl rfl rfl
    · exact .nothing rfl rfl rfl rfl rfl rfl
  · rw [h]
    exact writes_perform b provider c

theorem growsBy_ids :
    Store.GrowsBy (fun s => s.opportunities.map OpportunityRecord.id) Exchange.opportunity? := by
  intro b provider c
  have writes := writes_perform b provider c
  generalize (⟨c, (b.perform provider c).1⟩ : Exchange) = x,
    (b.perform provider c).2.store = s at writes ⊢
  cases writes with
  | nothing none _ _ same => simp [none, same]
  | opportunity draft => simp [Exchange.opportunity?, OpportunityRecord.ofDraft]
  | theme | evidence => simp [Exchange.opportunity?]

private theorem growsBy_names :
    Store.GrowsBy (fun s => s.themes.map Theme.name) Exchange.newTheme? := by
  intro b provider c
  have writes := writes_perform b provider c
  generalize (⟨c, (b.perform provider c).1⟩ : Exchange) = x,
    (b.perform provider c).2.store = s at writes ⊢
  cases writes with
  | nothing _ none _ _ same => simp [none, same]
  | opportunity | theme | evidence => simp [Exchange.newTheme?]

theorem growsBy_keys : Store.GrowsBy (fun s => s.evidence.map keyOf) Exchange.evidenceKey? := by
  intro b provider c
  have writes := writes_perform b provider c
  generalize (⟨c, (b.perform provider c).1⟩ : Exchange) = x,
    (b.perform provider c).2.store = s at writes ⊢
  cases writes with
  | nothing _ _ none _ _ same => simp [Exchange.evidenceKey?, none, same]
  | evidence draft => exact List.map_append
  | opportunity | theme => simp [Exchange.evidenceKey?, Exchange.evidence?]

section Complete

variable {provider : Provider} {b : Backend} {batches : List Batch}
  {turns : List (Nat × Conditions)} {i : Nat} {x : Batch}

theorem launched_merging (hx : batches[i]? = some x) :
    (merging b batches).threads[i]? = some ⟨[], x.program⟩ := by
  simp [merging, Interleaving.launched, hx]

/-- The identifiers of the opportunities that were there. -/
abbrev knownTo (b : Backend) : List Uuid := b.store.opportunities.map OpportunityRecord.id

variable (provider b) in
theorem takes_run (calm : ∀ u ∈ turns, u.2.faults = []) (hx : batches[i]? = some x) :
    ∃ xs rest, (merged provider b batches turns).threads[i]? = some ⟨xs, rest⟩ ∧
      Attempt.Takes (apply x.meeting x.findings) xs rest.result? ∧
      b.store.Performs xs (merged provider b batches turns).backend.store := by
  obtain ⟨xs, rest, stands, leaves, performs⟩ := Interleaving.performs_run provider
    (launched_merging (b := b) hx) fun u hu _ => calm u hu
  exact ⟨xs, rest, stands, leaves.takes, performs⟩

theorem outcome_run (stored : ∀ x ∈ batches, (b.store.meetings.find? x.meeting).isSome)
    (complete : Complete provider b batches turns) (hx : batches[i]? = some x) :
    ∃ t r, (merged provider b batches turns).threads[i]? = some t ∧
      (merged provider b batches turns).result? i = some r ∧
      Outcome (knownTo b) x.meeting x.findings t.past
        (merged provider b batches turns).backend.store r := by
  obtain ⟨xs, rest, stands, takes, performs⟩ := takes_run provider b complete.calm hx
  obtain ⟨hi, _⟩ := List.getElem?_eq_some_iff.mp hx
  obtain ⟨r, hr⟩ := Option.isSome_iff_exists.mp (complete.ended i hi)
  obtain ⟨t, same, ended⟩ := Interleaving.result?_eq_some_iff.mp hr
  rw [stands] at same
  obtain rfl := Option.some.inj same
  obtain rfl : rest = .done r := ended
  have settled : Settled (knownTo b) x.findings b.store
      (merged provider b batches turns).backend.store :=
    ⟨fun id hid => hid, fun id hid => complete.rows.unreferred id
      (List.mem_flatMap.mpr ⟨x, List.mem_of_getElem? hx, hid⟩)⟩
  have stored := stored x (List.mem_of_getElem? hx)
  exact ⟨_, r, stands, hr, outcome_apply settled stored performs takes⟩

theorem length_threads_run (turns : List (Nat × Conditions)) :
    (merged provider b batches turns).threads.length = batches.length := by
  rw [merged, Interleaving.length_run]
  simp [merging, Interleaving.launched]

theorem threads_of_none (hi : batches[i]? = none) :
    (merged provider b batches turns).threads[i]? = none := by
  rw [List.getElem?_eq_none_iff] at hi ⊢
  rwa [length_threads_run]

theorem batch_of_stands {t : Thread (Except Error Summary)}
    (stands : (merged provider b batches turns).threads[i]? = some t) :
    ∃ x, batches[i]? = some x := by
  obtain ⟨hi, _⟩ := List.getElem?_eq_some_iff.mp stands
  exact ⟨_, List.getElem?_eq_getElem (length_threads_run (b := b) turns ▸ hi)⟩

theorem meeting_of_keysAdded (calm : ∀ u ∈ turns, u.2.faults = []) (hx : batches[i]? = some x)
    {t : Thread (Except Error Summary)}
    (stands : (merged provider b batches turns).threads[i]? = some t) :
    ∀ key ∈ keysAdded t.past, key.2.1 = x.meeting := by
  obtain ⟨xs, rest, same, takes, _⟩ := takes_run provider b calm hx
  rw [stands] at same
  obtain rfl := Option.some.inj same
  intro key hkey
  rw [keysAdded_eq] at hkey
  obtain ⟨draft, hdraft, rfl⟩ := List.mem_map.mp hkey
  obtain ⟨⟨c, r⟩, hy, hdraft⟩ := List.mem_filterMap.mp hdraft
  have about := (records_apply takes).calls _ hy
  rw [Exchange.evidence?_eq_some hdraft] at about
  exact about

theorem evidenceFrom_keys (s : Store) (meeting : Uuid) :
    (s.evidence.map keyOf).filter (fun key => key.2.1 = meeting) =
      (s.evidenceFrom meeting).map keyOf := by
  rw [Store.evidenceFrom, List.filter_map]
  rfl

/-- Merges of different meetings add to the evidence from each just what is due for its findings. -/
theorem keys_run (apart : (batches.map Batch.meeting).Nodup)
    (stored : ∀ x ∈ batches, (b.store.meetings.find? x.meeting).isSome)
    (complete : Complete provider b batches turns) (hx : batches[i]? = some x) :
    ((merged provider b batches turns).backend.store.evidenceFrom x.meeting).map keyOf =
      (b.store.evidenceFrom x.meeting).map keyOf ++
        keysDue x.meeting ((merged provider b batches turns).made i)
          (applicable (knownTo b) x.findings) := by
  have shares := (Interleaving.shares_launched b (batches.map Batch.program)).run growsBy_keys
    provider complete.calm
  obtain ⟨t, r, stands, _, outcome⟩ := outcome_run stored complete hx
  rw [Merges.made_of_stands stands, ← outcome.attests.evidence, ← evidenceFrom_keys,
    ← evidenceFrom_keys]
  -- What the other merges have added is about other meetings.
  refine shares.filter_of_one stands (fun key hkey => ?_) fun j u hj hu key hkey => ?_
  · simpa using meeting_of_keysAdded complete.calm hx stands key hkey
  · obtain ⟨y, hy⟩ := batch_of_stands hu
    have about := meeting_of_keysAdded complete.calm hy hu key hkey
    rw [about, decide_eq_false_iff_not]
    intro same
    obtain ⟨hlt, _⟩ := List.getElem?_eq_some_iff.mp hy
    refine hj ((List.getElem?_inj (by simpa using hlt) apart).mp ?_)
    rw [List.getElem?_map, List.getElem?_map, hx, hy, Option.map_some, same, Option.map_some]

theorem keys_run_of_other (complete : Complete provider b batches turns) {meeting : Uuid}
    (other : ∀ x ∈ batches, x.meeting ≠ meeting) :
    ((merged provider b batches turns).backend.store.evidenceFrom meeting).map keyOf =
      (b.store.evidenceFrom meeting).map keyOf := by
  have shares := (Interleaving.shares_launched b (batches.map Batch.program)).run growsBy_keys
    provider complete.calm
  rw [← evidenceFrom_keys, ← evidenceFrom_keys]
  refine shares.filter_of_none fun t ht key hkey => ?_
  obtain ⟨j, stands⟩ := List.getElem?_of_mem ht
  obtain ⟨y, hy⟩ := batch_of_stands stands
  rw [meeting_of_keysAdded complete.calm hy stands key hkey, decide_eq_false_iff_not]
  exact other y (List.mem_of_getElem? hy)

theorem ids_run (complete : Complete provider b batches turns) :
    ((merged provider b batches turns).backend.store.opportunities.map
      OpportunityRecord.id).Perm (knownTo b ++ ((merged provider b batches turns).threads.map
        fun t => opportunitiesCreated t.past).flatten) := by
  have shares := (Interleaving.shares_launched b (batches.map Batch.program)).run growsBy_ids
    provider complete.calm
  have all := shares.all
  rwa [Interleaving.exchanges, List.filterMap_flatMap, List.flatMap_def] at all

/-- A merge makes as many opportunities as there are proposals among the findings that it can
apply. -/
theorem length_made (stored : ∀ x ∈ batches, (b.store.meetings.find? x.meeting).isSome)
    (complete : Complete provider b batches turns) :
    ((merged provider b batches turns).threads.map fun t => opportunitiesCreated t.past).map
        List.length =
      batches.map fun x => (proposals (applicable (knownTo b) x.findings)).length := by
  refine List.ext_getElem? fun i => ?_
  cases hx : batches[i]? with
  | none =>
    have none : (merged provider b batches turns).threads[i]? = none := threads_of_none hx
    simp [none, hx]
  | some x =>
    obtain ⟨t, r, stands, _, outcome⟩ := outcome_run stored complete hx
    simp [stands, hx, outcome.attests.length]

/-- Opportunities that are attested stand in the store in the order in which they were made, and say
what their proposals say. -/
theorem Attests.problems {ps : List Proposal} {due : List EvidenceKey} {xs : List Exchange}
    {s : Store} (h : Attests ps due xs s)
    (distinct : (s.opportunities.map OpportunityRecord.id).Nodup)
    (themes : (s.themes.map Theme.id).Nodup)
    (stand : (opportunitiesCreated xs).Sublist (s.opportunities.map OpportunityRecord.id)) :
    let rows := s.opportunities.filter fun o => o.id ∈ opportunitiesCreated xs
    rows.map OpportunityRecord.id = opportunitiesCreated xs ∧
      rows.map s.problemOf = ps.map Proposal.problem := by
  intro rows
  have ids : rows.map OpportunityRecord.id = opportunitiesCreated xs := by
    have filtered : rows.map OpportunityRecord.id =
        (s.opportunities.map OpportunityRecord.id).filter (· ∈ opportunitiesCreated xs) := by
      rw [List.filter_map]
      rfl
    rw [filtered]
    refine filter_eq_of_sublist stand (by simp) ?_
    have within : (s.opportunities.map OpportunityRecord.id).filter
        (· ∈ opportunitiesCreated xs) ⊆ opportunitiesCreated xs := fun id hid => by
      simpa using (List.mem_filter.mp hid).2
    exact (List.subperm_of_subset (distinct.filter _) within).length_le
  refine ⟨ids, ?_⟩
  have attested := h.opportunities
  rw [← ids, List.forall₂_map_right_iff] at attested
  have within : ∀ o ∈ rows, o ∈ s.opportunities := fun o ho => (List.mem_filter.mp ho).1
  have same : List.Forall₂ (fun o p => s.problemOf o = p.problem) rows ps := by
    refine ((List.forall₂_and_left _ _).mpr ⟨within, attested.flip⟩).imp fun o p h => ?_
    obtain ⟨there, o', there', hid, repeats, files⟩ := h
    obtain rfl := List.inj_on_of_nodup_map distinct there' there hid
    simp only [Store.problemOf, Proposal.problem, files.themeNameOf themes, repeats.userSegment,
      repeats.struggle, repeats.whyItMatters, repeats.workaround]
  have equal : List.Forall₂ (· = ·) (rows.map s.problemOf) (ps.map Proposal.problem) :=
    List.forall₂_map_left_iff.mpr (List.forall₂_map_right_iff.mpr same)
  rwa [List.forall₂_eq_eq_eq] at equal

/-- The opportunities that a merge has made stand in the store as its findings have them. -/
theorem created_run (stored : ∀ x ∈ batches, (b.store.meetings.find? x.meeting).isSome)
    (complete : Complete provider b batches turns) (hx : batches[i]? = some x) :
    ((merged provider b batches turns).created i).map OpportunityRecord.id =
        (merged provider b batches turns).made i ∧
      ((merged provider b batches turns).created i).map
          (merged provider b batches turns).backend.store.problemOf =
        (proposals (applicable (knownTo b) x.findings)).map Proposal.problem := by
  have shares := (Interleaving.shares_launched b (batches.map Batch.program)).run growsBy_ids
    provider complete.calm
  obtain ⟨t, r, stands, _, outcome⟩ := outcome_run stored complete hx
  rw [Merges.created, Merges.made_of_stands stands]
  exact outcome.attests.problems complete.rows.opportunities complete.rows.themes
    ((List.sublist_append_right _ _).trans (shares.each t (List.mem_of_getElem? stands)))

theorem Attests.names {ps : List Proposal} {due : List EvidenceKey} {xs : List Exchange} {s : Store}
    (h : Attests ps due xs s) :
    ps.filterMap Proposal.themeName? ⊆ s.themes.map Theme.name := by
  intro name asked
  obtain ⟨p, hp, named⟩ := List.mem_filterMap.mp asked
  have filed : List.Forall₂ (fun p _ => (∃ id, Files s p.themeName? id) ∧ True) ps
      (opportunitiesCreated xs) :=
    h.opportunities.imp fun _ _ ⟨_, _, _, _, files⟩ => ⟨⟨_, files⟩, trivial⟩
  obtain ⟨id, files⟩ := ((List.forall₂_and_left (R := fun _ _ => True) _ _).mp filed).1 p hp
  rw [named] at files
  cases files with
  | some found =>
    obtain ⟨t, ht, _⟩ := found
    obtain ⟨there, rfl⟩ := Store.findTheme?_eq_some ht
    exact List.mem_map_of_mem there

/-- There is a theme under a name exactly if there was one, or if a finding asks for it that can be
applied. -/
theorem mem_names_run (stored : ∀ x ∈ batches, (b.store.meetings.find? x.meeting).isSome)
    (complete : Complete provider b batches turns) (name : String) :
    name ∈ (merged provider b batches turns).backend.store.themes.map Theme.name ↔
      name ∈ b.store.themes.map Theme.name ∨ ∃ x ∈ batches,
        name ∈ (proposals (applicable (knownTo b) x.findings)).filterMap Proposal.themeName? := by
  have shares := (Interleaving.shares_launched b (batches.map Batch.program)).run growsBy_names
    provider complete.calm
  constructor
  · intro there
    rcases List.mem_append.mp (shares.all.subset there) with old | recorded
    · exact .inl old
    · rw [Interleaving.exchanges, List.filterMap_flatMap, List.mem_flatMap] at recorded
      obtain ⟨t, ht, made⟩ := recorded
      obtain ⟨i, stands⟩ := List.getElem?_of_mem ht
      obtain ⟨x, hx⟩ := batch_of_stands stands
      obtain ⟨t', r, stands', _, outcome⟩ := outcome_run stored complete hx
      obtain rfl := Option.some.inj (stands.symm.trans stands')
      exact .inr ⟨x, List.mem_of_getElem? hx, outcome.attests.themes made⟩
  · rintro (old | ⟨x, member, asked⟩)
    · exact shares.kept.subset old
    · obtain ⟨i, hx⟩ := List.getElem?_of_mem member
      obtain ⟨t, r, _, _, outcome⟩ := outcome_run stored complete hx
      exact outcome.attests.names asked

end Complete

end Merge

end MeetingInsights
