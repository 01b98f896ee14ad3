import Mathlib.Data.List.Nodup
import MeetingInsights.Proofs.Statuses

/-! # Reachable stores

What one call can do to a store is said once. The stores that there are begin without rows and
change by calls only, whatever disturbs them; a new row gets an identifier that is not in use. So
rows are told apart by their identifiers, and themes by their names as well.
-/

namespace MeetingInsights

namespace Backend

variable {b : Backend}

/-- What a call can do to the store: nothing, or one thing to one of its tables. -/
inductive Effect (b : Backend) : Store → Prop where
  | nothing : b.Effect b.store
  | createMeeting (draft : MeetingDraft) :
      b.Effect (b.store.createMeeting draft b.supply.meeting b.now).2
  | moveMeeting {m : Meeting} (status : Status) (message : Option String)
      (found : b.store.meetings.find? m.id = some m) (isOpen : m.status.isTerminal = false) :
      b.Effect
        { b.store with meetings := b.store.meetings.replace (m.withStatus status message b.now) }
  | addOpportunity (draft : OpportunityDraft)
      (theme : b.store.acceptsTheme draft.themeId = true) :
      b.Effect
        { b.store with opportunities := b.store.opportunities ++
            [OpportunityRecord.ofDraft draft b.supply.opportunity b.now] }
  | addTheme (name : String) (new : b.store.findTheme? name = none) :
      b.Effect { b.store with themes := b.store.themes ++ [⟨b.supply.theme, name, b.now⟩] }
  | addEvidence (draft : EvidenceDraft)
      (opportunity : (b.store.opportunityRecord? draft.opportunityId).isSome = true)
      (meeting : (b.store.meetings.find? draft.meetingId).isSome = true) :
      b.Effect
        { b.store with evidence := b.store.evidence ++
            [Evidence.ofDraft draft b.supply.evidence b.now] }

private theorem effect_updateStatus (provider : Provider) (id : Uuid) (status : Status)
    (message : Option String) :
    b.Effect (b.perform provider (.updateStatus id status message)).2.store := by
  simp only [perform, Store.updateStatus]
  cases hm : b.store.meetings.find? id with
  | none => exact .nothing
  | some m =>
    obtain rfl := MeetingTable.find?_eq_some hm
    dsimp only
    cases hs : m.status.isTerminal with
    | true =>
      rw [if_pos rfl]
      exact .nothing
    | false =>
      rw [if_neg Bool.false_ne_true]
      exact .moveMeeting status message hm hs

private theorem effect_createOpportunity (provider : Provider) (draft : OpportunityDraft) :
    b.Effect (b.perform provider (.createOpportunity draft)).2.store := by
  simp only [perform, Store.createOpportunity]
  cases ht : b.store.acceptsTheme draft.themeId with
  | true => exact .addOpportunity draft ht
  | false => exact .nothing

private theorem effect_createTheme (provider : Provider) (name : String) :
    b.Effect (b.perform provider (.createTheme name)).2.store := by
  simp only [perform, Store.createTheme]
  cases ht : b.store.findTheme? name with
  | none => exact .addTheme name ht
  | some t => exact .nothing

private theorem effect_addEvidence (provider : Provider) (draft : EvidenceDraft) :
    b.Effect (b.perform provider (.addEvidence draft)).2.store := by
  simp only [perform, Store.addEvidence]
  cases ho : b.store.opportunityRecord? draft.opportunityId with
  | none => exact .nothing
  | some o =>
    cases hm : b.store.meetings.find? draft.meetingId with
    | none => exact .nothing
    | some m => exact .addEvidence draft (by simp [ho]) (by simp [hm])

private theorem effect_perform (b : Backend) (provider : Provider) (c : Call) :
    b.Effect (b.perform provider c).2.store := by
  cases c with
  | createMeeting draft => exact .createMeeting draft
  | updateStatus id status message => exact effect_updateStatus provider id status message
  | createOpportunity draft => exact effect_createOpportunity provider draft
  | createTheme name => exact effect_createTheme provider name
  | addEvidence draft => exact effect_addEvidence provider draft
  | fetchMeeting | idsByStatus | roster | findTheme | extract => exact .nothing

theorem effect_answer (b : Backend) (provider : Provider) (c : Call) :
    b.Effect (b.answer provider c).2.store := by
  rcases answer_cases b provider c with ⟨faults, hb, _⟩ | ⟨faults, h⟩
  · rw [hb]
    exact .nothing
  · rw [h]
    exact effect_perform b provider c

/-- The identifiers that the next rows get are not in use. -/
structure SuppliesNew (b : Backend) : Prop where
  meeting : b.supply.meeting ∉ b.store.meetings.rows.map Meeting.id
  opportunity : b.supply.opportunity ∉ b.store.opportunities.map OpportunityRecord.id
  theme : b.supply.theme ∉ b.store.themes.map Theme.id
  evidence : b.supply.evidence ∉ b.store.evidence.map Evidence.id

instance (b : Backend) : Decidable b.SuppliesNew :=
  decidable_of_iff
    (b.supply.meeting ∉ b.store.meetings.rows.map Meeting.id ∧
      b.supply.opportunity ∉ b.store.opportunities.map OpportunityRecord.id ∧
      b.supply.theme ∉ b.store.themes.map Theme.id ∧
      b.supply.evidence ∉ b.store.evidence.map Evidence.id)
    ⟨fun ⟨m, o, t, e⟩ => ⟨m, o, t, e⟩, fun h => ⟨h.meeting, h.opportunity, h.theme, h.evidence⟩⟩

def vacant : Backend := ⟨.empty, default, default, [], []⟩

end Backend

namespace Store

/-- A store without rows, or what a call leaves of a store that can be reached. Faults, time and
supply may be any at each call. -/
inductive Reachable : Store → Prop where
  | empty : Reachable .empty
  | answer {b : Backend} (provider : Provider) (c : Call) (before : Reachable b.store)
      (new : b.SuppliesNew) : Reachable (b.answer provider c).2.store

/-- Opportunities and themes are told apart by their identifiers, and themes by their names. -/
structure Distinct (s : Store) : Prop where
  opportunities : (s.opportunities.map OpportunityRecord.id).Nodup
  themes : (s.themes.map Theme.id).Nodup
  names : (s.themes.map Theme.name).Nodup

theorem findTheme?_eq_none_iff {s : Store} {name : String} :
    s.findTheme? name = none ↔ name ∉ s.themes.map Theme.name := by
  simp [findTheme?]

theorem findTheme?_eq_some {s : Store} {name : String} {t : Theme}
    (h : s.findTheme? name = some t) : t ∈ s.themes ∧ t.name = name :=
  ⟨List.mem_of_find?_eq_some h, by simpa using List.find?_some h⟩

theorem find?_key_of_mem {α : Type} {key : α → Uuid} {rows : List α}
    (distinct : (rows.map key).Nodup) {a : α} (ha : a ∈ rows) :
    rows.find? (fun r => key r = key a) = some a := by
  have found : (rows.find? fun r => key r = key a).isSome :=
    List.find?_isSome.mpr ⟨a, ha, by simp⟩
  obtain ⟨r, hr⟩ := Option.isSome_iff_exists.mp found
  have same : key r = key a := by simpa using List.find?_some hr
  rw [hr, List.inj_on_of_nodup_map distinct (List.mem_of_find?_eq_some hr) ha same]

theorem themeById?_of_mem {s : Store} (distinct : (s.themes.map Theme.id).Nodup) {t : Theme}
    (ht : t ∈ s.themes) : s.themeById? t.id = some t := find?_key_of_mem distinct ht

/-- A name is stored once, whatever identifiers new themes get. -/
theorem nodup_names_effect {b : Backend} {s : Store} (h : (b.store.themes.map Theme.name).Nodup)
    (e : b.Effect s) : (s.themes.map Theme.name).Nodup := by
  cases e with
  | nothing | createMeeting | moveMeeting | addOpportunity | addEvidence => exact h
  | addTheme name unused =>
    simpa using List.Nodup.concat (findTheme?_eq_none_iff.mp unused) h

theorem Distinct.effect {b : Backend} {s : Store} (h : b.store.Distinct) (new : b.SuppliesNew)
    (e : b.Effect s) : s.Distinct := by
  have names := nodup_names_effect h.names e
  cases e with
  | nothing | createMeeting | moveMeeting | addEvidence => exact ⟨h.opportunities, h.themes, names⟩
  | addOpportunity draft =>
    refine ⟨?_, h.themes, names⟩
    simpa [OpportunityRecord.ofDraft] using List.Nodup.concat new.opportunity h.opportunities
  | addTheme name unused =>
    refine ⟨h.opportunities, ?_, names⟩
    simpa using List.Nodup.concat new.theme h.themes

theorem Reachable.distinct {s : Store} (h : s.Reachable) : s.Distinct := by
  induction h with
  | empty => exact ⟨List.nodup_nil, List.nodup_nil, List.nodup_nil⟩
  | answer provider c _ new ih => exact ih.effect new (Backend.effect_answer _ provider c)

end Store

end MeetingInsights
