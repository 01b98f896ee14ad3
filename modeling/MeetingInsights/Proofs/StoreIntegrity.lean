import Mathlib.Algebra.BigOperators.Ring.Finset
import MeetingInsights.Proofs.MeetingRows
import MeetingInsights.Proofs.MergeAccounts

/-! # Integrity of the store

Whatever operations are called with whatever arguments, and whichever of them fail, the four tables
of a store agree: rows refer to rows that are stored, names of themes are taken once, what is
counted and listed is what is there, and nothing that has been stored is lost or changed.
-/

namespace MeetingInsights

namespace Store

variable {s t : Store} {xs : List Exchange}

/-- What the rows of a store refer to is stored, and evidence has no empty context. -/
structure Linked (s : Store) : Prop where
  themes : ∀ o ∈ s.opportunities, s.acceptsTheme o.themeId = true
  opportunities : ∀ e ∈ s.evidence, (s.opportunityRecord? e.opportunityId).isSome
  meetings : ∀ e ∈ s.evidence, (s.meetings.find? e.meetingId).isSome
  contexts : ∀ e ∈ s.evidence, e.context ≠ some ""

theorem isSome_themeById?_iff {id : Uuid} :
    (s.themeById? id).isSome ↔ ∃ t ∈ s.themes, t.id = id := by
  simp [themeById?, List.find?_isSome]

private theorem acceptsTheme_of_prefix (h : s.themes <+: t.themes) {theme : Option Uuid}
    (accepted : s.acceptsTheme theme = true) : t.acceptsTheme theme = true := by
  cases theme with
  | none => rfl
  | some id =>
    obtain ⟨r, mem, same⟩ := isSome_themeById?_iff.mp accepted
    exact isSome_themeById?_iff.mpr ⟨r, h.subset mem, same⟩

private theorem isSome_opportunityRecord?_of_prefix (h : s.opportunities <+: t.opportunities)
    {id : Uuid} (stored : (s.opportunityRecord? id).isSome) : (t.opportunityRecord? id).isSome := by
  rw [Merge.opportunityRecord?_isSome_iff] at stored ⊢
  exact (h.map OpportunityRecord.id).subset stored

private theorem isSome_find?_of_effect {b : Backend} (e : b.Effect s) {id : Uuid}
    (stored : (b.store.meetings.find? id).isSome) : (s.meetings.find? id).isSome := by
  rw [MeetingTable.find?_isSome_iff] at stored ⊢
  exact e.meetings.subset stored

theorem Linked.effect {b : Backend} (h : b.store.Linked) (e : b.Effect s) : s.Linked := by
  have themes : ∀ o ∈ b.store.opportunities, s.acceptsTheme o.themeId = true :=
    fun o ho => acceptsTheme_of_prefix e.themes (h.themes o ho)
  have opportunities : ∀ r ∈ b.store.evidence, (s.opportunityRecord? r.opportunityId).isSome :=
    fun r hr => isSome_opportunityRecord?_of_prefix e.opportunities (h.opportunities r hr)
  have meetings : ∀ r ∈ b.store.evidence, (s.meetings.find? r.meetingId).isSome :=
    fun r hr => isSome_find?_of_effect e (h.meetings r hr)
  cases e with
  | nothing | createMeeting | moveMeeting | addTheme =>
    exact ⟨themes, opportunities, meetings, h.contexts⟩
  | addOpportunity draft theme =>
    exact ⟨List.forall_mem_append.mpr ⟨themes, List.forall_mem_singleton.mpr theme⟩, opportunities,
      meetings, h.contexts⟩
  | addEvidence draft opportunity meeting =>
    exact ⟨themes,
      List.forall_mem_append.mpr ⟨opportunities, List.forall_mem_singleton.mpr opportunity⟩,
      List.forall_mem_append.mpr ⟨meetings, List.forall_mem_singleton.mpr meeting⟩,
      List.forall_mem_append.mpr
        ⟨h.contexts, List.forall_mem_singleton.mpr (nonEmptyContext_ne draft.context)⟩⟩

theorem Reachable.linked (h : s.Reachable) : s.Linked := by
  induction h with
  | empty => constructor <;> exact fun _ h => (List.not_mem_nil h).elim
  | answer provider c _ _ ih => exact ih.effect (Backend.effect_answer _ provider c)

/-- An opportunity as it is read: its record, with the name of its theme, which is stored, and the
number of rows of evidence that are listed for it. -/
structure ReadsAs (s : Store) (o : OpportunityRecord) (r : Opportunity) : Prop where
  fetched : s.fetchOpportunity o.id = .ok r
  record : r.toOpportunityRecord = o
  themed : ∀ id, o.themeId = some id → ∃ t ∈ s.themes, t.id = id ∧ r.themeName = some t.name
  unthemed : o.themeId = none → r.themeName = none
  counted : r.evidenceCount = (s.evidenceFor o.id).length

private theorem opportunityRecord?_of_mem
    (distinct : (s.opportunities.map OpportunityRecord.id).Nodup)
    {o : OpportunityRecord} (ho : o ∈ s.opportunities) : s.opportunityRecord? o.id = some o :=
  find?_key_of_mem distinct ho

private theorem Linked.readsAs (h : s.Linked) (distinct : s.Distinct) {o : OpportunityRecord}
    (ho : o ∈ s.opportunities) : s.ReadsAs o (s.describe o) where
  fetched := by rw [fetchOpportunity, opportunityRecord?_of_mem distinct.opportunities ho]
  record := rfl
  themed id theme := by
    have accepted := h.themes o ho
    rw [theme] at accepted
    obtain ⟨t, mem, rfl⟩ := isSome_themeById?_iff.mp accepted
    refine ⟨t, mem, rfl, ?_⟩
    simp [describe, themeNameOf, theme, themeById?_of_mem distinct.themes mem]
  unthemed theme := by simp [describe, themeNameOf, theme]
  counted := rfl

private theorem sum_count_eq_length {ids keys : List Uuid} (distinct : ids.Nodup)
    (known : ∀ key ∈ keys, key ∈ ids) : (ids.map fun id => keys.count id).sum = keys.length := by
  have counted := Multiset.sum_count_eq_card (s := ids.toFinset) (m := (keys : Multiset Uuid))
    (by simpa using known)
  rw [← List.sum_toFinset _ distinct]
  simpa using counted

private theorem length_evidenceFor (s : Store) (id : Uuid) :
    (s.evidenceFor id).length = (s.evidence.map Evidence.opportunityId).count id := by
  rw [List.count_eq_countP, List.countP_map, List.countP_eq_length_filter, evidenceFor]
  rfl

private theorem Linked.sum_evidenceCount (h : s.Linked) (distinct : s.Distinct) :
    (s.describedOpportunities.map Opportunity.evidenceCount).sum = s.evidence.length := by
  have known : ∀ id ∈ s.evidence.map Evidence.opportunityId,
      id ∈ s.opportunities.map OpportunityRecord.id := by
    rw [List.forall_mem_map]
    exact fun e he => Merge.opportunityRecord?_isSome_iff.mp (h.opportunities e he)
  have counted := sum_count_eq_length distinct.opportunities known
  rw [List.map_map, List.length_map] at counted
  rw [← counted, Nat.cast_list_sum, List.map_map, describedOpportunities, List.map_map]
  congr 1
  exact List.map_congr_left fun o _ => congrArg Nat.cast (s.length_evidenceFor o.id)

end Store

/-- The identifier and the struggle of an opportunity that is created. -/
def Exchange.problem? : Exchange → Option (Uuid × String)
  | ⟨.createOpportunity draft, .ok id⟩ => some (id, draft.struggle)
  | _ => none

private theorem Exchange.problem?_eq_none {x : Exchange} (h : x.opportunity? = none) :
    x.problem? = none := by
  obtain ⟨c, r⟩ := x
  cases c <;> cases r <;> first | rfl | cases h

namespace Store

variable {s : Store} {xs : List Exchange}

/-- A store without rows and what a call leaves of a store, with all the calls until then and their
answers. Faults and time may be any at each call, and a new row gets an identifier that is not in
use. -/
inductive History : List Exchange → Store → Prop where
  | empty : History [] .empty
  | answer {xs : List Exchange} {b : Backend} (provider : Provider) (c : Call)
      (before : History xs b.store) (new : b.SuppliesNew) :
      History (xs ++ [⟨c, (b.answer provider c).1⟩]) (b.answer provider c).2.store

theorem History.reachable (h : History xs s) : s.Reachable := by
  induction h with
  | empty => exact .empty
  | answer provider c _ new ih => exact .answer provider c ih new

/-- Opportunities stand in the order in which they have been created. -/
theorem History.problems (h : History xs s) :
    s.opportunities.map (fun o => (o.id, o.struggle)) = xs.filterMap Exchange.problem? := by
  induction h with
  | empty => rfl
  | @answer xs b provider c _ _ ih =>
    have writes := Merge.writes_answer b provider c
    generalize (⟨c, (b.answer provider c).1⟩ : Exchange) = x,
      (b.answer provider c).2.store = t at writes ⊢
    rw [List.filterMap_append, ← ih]
    cases writes with
    | nothing none _ _ same _ _ => simp [same, Exchange.problem?_eq_none none]
    | opportunity draft => simp [Exchange.problem?, OpportunityRecord.ofDraft]
    | theme | evidence => simp [Exchange.problem?]

/-- What an operation leaves of a store: all rows, of which only those of meetings may change, and
these in nothing that they have been created with. -/
structure Preserves (s t : Store) : Prop where
  meetings : ∃ kept added, t.meetings.rows = kept ++ added ∧
    List.Forall₂ Meeting.SameNotes s.meetings.rows kept
  opportunities : s.opportunities <+: t.opportunities
  themes : s.themes <+: t.themes
  evidence : s.evidence <+: t.evidence

/-- The integrity of a store of which all calls are known that have been made of it. -/
structure Integral (xs : List Exchange) (s : Store) : Prop where
  names : (s.themes.map Theme.name).Nodup
  reads : ∀ o ∈ s.opportunities, ∃ r, s.ReadsAs o r
  supports : ∀ e ∈ s.evidence, (∃ o ∈ s.opportunities, o.id = e.opportunityId) ∧
    (∃ m ∈ s.meetings.rows, m.id = e.meetingId) ∧ e.context ≠ some ""
  total : (s.describedOpportunities.map Opportunity.evidenceCount).sum = s.evidence.length
  roster : s.roster.map (fun e => (e.opportunityId, e.struggle)) = xs.filterMap Exchange.problem?
  lasting : ∀ (b : Backend) (provider : Provider) (c : Call), b.store = s → b.SuppliesNew →
    s.Preserves (b.answer provider c).2.store

private theorem preserves_answer {b : Backend} (new : b.SuppliesNew) (provider : Provider)
    (c : Call) : b.store.Preserves (b.answer provider c).2.store where
  meetings := (b.meetingEffect_answer provider c).kept new.meeting
  opportunities := (b.effect_answer provider c).opportunities
  themes := (b.effect_answer provider c).themes
  evidence := (b.effect_answer provider c).evidence

/-- Every store has integrity, whatever calls have been made of it since it was without rows and
however they were answered. -/
theorem integral_of_history (h : History xs s) : Integral xs s := by
  have linked := h.reachable.linked
  have distinct := h.reachable.distinct
  constructor
  case names => exact distinct.names
  case reads => exact fun o ho => ⟨s.describe o, linked.readsAs distinct ho⟩
  case supports =>
    intro e he
    refine ⟨?_, ?_, linked.contexts e he⟩
    · exact List.mem_map.mp (Merge.opportunityRecord?_isSome_iff.mp (linked.opportunities e he))
    · exact List.mem_map.mp (MeetingTable.find?_isSome_iff.mp (linked.meetings e he))
  case total => exact linked.sum_evidenceCount distinct
  case roster =>
    rw [← h.problems, roster, describedOpportunities, List.map_map, List.map_map]
    rfl
  case lasting =>
    rintro b provider c rfl new
    exact preserves_answer new provider c

/-- Evidence for an opportunity under a theme, after an attempt to add some for an opportunity that
is not stored. -/
theorem integral_of_stocked :
    let draft : EvidenceDraft := ⟨default, default, "It took weeks", some ""⟩
    let provider : Provider := fun _ _ => .ok []
    let b := (Merge.stocked.answer provider (.addEvidence { draft with opportunityId := ⟨7⟩ })).2
    let s := (b.answer provider (.addEvidence draft)).2.store
    (s.evidence.map Evidence.words = [("It took weeks", none)]) ∧
      ∃ xs, xs.filterMap Exchange.problem? = [(default, "Invoices are wrong")] ∧ Integral xs s := by
  refine ⟨by decide +kernel, _, ?_, integral_of_history (.answer _ _ (.answer _ _ (.answer _ _
    (.answer _ _ (.answer _ _ .empty ?_) ?_) ?_) ?_) ?_)⟩
  all_goals decide +kernel

end Store

end MeetingInsights
