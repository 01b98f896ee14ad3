import Mathlib.Data.List.Flatten
import MeetingInsights.Proofs.MergeAccounts
import MeetingInsights.Proofs.MergeLengths
import MeetingInsights.Proofs.ProgramsInTurn

/-! # Merges do not interfere

In whatever order the calls of merges for different meetings are answered, each merge comes to the
same result and to the same rows, the identifiers of new opportunities aside. One such order is that
of merges which run one after another.
-/

namespace MeetingInsights

/-- Lists of new values, of which no two are the same, can be renamed into others of the same
lengths. Values that are not new keep their names. -/
theorem exists_renaming {β : Type} [DecidableEq β] {old : List β} {ls ms : List (List β)}
    (nodup : (old ++ ls.flatten).Nodup) (lengths : ls.map List.length = ms.map List.length) :
    ∃ rename : β → β, ls.map (List.map rename) = ms ∧ (∀ x ∉ ls.flatten, rename x = x) ∧
      (old ++ ls.flatten).map rename = old ++ ms.flatten := by
  obtain ⟨_, distinct, disjoint⟩ := List.nodup_append.mp nodup
  have total : ls.flatten.length = ms.flatten.length := by
    rw [List.length_flatten, List.length_flatten, lengths]
  -- A new value becomes the one at its place in the other lists. Other values have no place.
  let rename (x : β) : β := (ms.flatten[ls.flatten.idxOf x]?).getD x
  have others : ∀ x ∉ ls.flatten, rename x = x := by
    intro x hx
    simp only [rename]
    rw [List.idxOf_eq_length hx, total, List.getElem?_length]
    rfl
  have new : ls.flatten.map rename = ms.flatten := by
    refine List.ext_getElem (by rw [List.length_map, total]) fun i hi hi' => ?_
    rw [List.length_map] at hi
    rw [List.getElem_map]
    simp only [rename]
    rw [distinct.idxOf_getElem i hi, List.getElem?_eq_getElem hi']
    rfl
  have kept : old.map rename = old := by
    have same : ∀ x ∈ old, rename x = id x := fun x hx =>
      others x fun hx' => disjoint x hx x hx' rfl
    rw [List.map_congr_left same, List.map_id]
  refine ⟨rename, List.eq_iff_flatten_eq.mpr ⟨?_, ?_⟩, others, ?_⟩
  · rw [← List.map_flatten, new]
  · rw [← lengths, List.map_map]
    exact List.map_congr_left fun l _ => List.length_map rename
  · rw [List.map_append, kept, new]

namespace Merge

/-- Two states of merges over a backend agree, with a renaming of what the first has made. -/
structure Agree (b : Backend) (rename : Uuid → Uuid) (v w : Merges) : Prop where
  /-- What none of the merges has made keeps its identifier. -/
  old : ∀ id, (∀ i, id ∉ v.made i) → rename id = id
  /-- The opportunities of the one are renamed to those of the other, no two to the same. -/
  ids : ((v.backend.store.opportunities.map OpportunityRecord.id).map rename).Perm
    (w.backend.store.opportunities.map OpportunityRecord.id)
  injective : ∀ x ∈ v.backend.store.opportunities.map OpportunityRecord.id,
    ∀ y ∈ v.backend.store.opportunities.map OpportunityRecord.id, rename x = rename y → x = y
  results : ∀ i, w.result? i = (v.result? i).map (Except.map (Summary.rename rename))
  /-- The opportunities that a merge has made are the same, in the same order. -/
  created : ∀ i,
    (w.created i).map (fun o => (o.id, w.backend.store.problemOf o)) =
      (v.created i).map fun o => (rename o.id, v.backend.store.problemOf o)
  /-- The evidence from a meeting is what there was with the same new rows, in the same order. -/
  evidence : ∀ meeting, ∃ rows rows',
    v.backend.store.evidenceFrom meeting = b.store.evidenceFrom meeting ++ rows ∧
      w.backend.store.evidenceFrom meeting = b.store.evidenceFrom meeting ++ rows' ∧
      rows'.map keyOf = rows.map fun e => renameKey rename (keyOf e)
  themes : ∀ name, name ∈ v.backend.store.themes.map Theme.name ↔
    name ∈ w.backend.store.themes.map Theme.name

/-- What holds of merges that share a backend. -/
structure Independent (provider : Provider) (b : Backend) (batches : List Batch) : Prop where
  /-- Any two ways to bring all of them to their end agree. -/
  agree : ∀ turns turns', Complete provider b batches turns → Complete provider b batches turns' →
    ∃ rename, Agree b rename (merged provider b batches turns) (merged provider b batches turns')
  /-- Each comes to its end that has turns enough, whoever else has some. -/
  returns : ∀ turns, (∀ u ∈ turns, u.2.faults = []) → ∀ i x, batches[i]? = some x →
    (x.findings.map mostCalls).sum ≤ (turns.countP fun u => u.1 = i) →
    ((merged provider b batches turns).result? i).isSome
  /-- To run one after another is one of the ways. -/
  inTurn : b.faults = [] →
    NewRows batches b.store
      (Program.runInTurn provider (batches.map Batch.program) b).2.store →
    ∃ turns, Complete provider b batches turns ∧
      (merged provider b batches turns).backend =
        (Program.runInTurn provider (batches.map Batch.program) b).2 ∧
      ∀ i, (merged provider b batches turns).result? i =
        (Program.runInTurn provider (batches.map Batch.program) b).1[i]?

section Agreement

variable {provider : Provider} {b : Backend} {batches : List Batch}
  {turns turns' : List (Nat × Conditions)}

theorem evidence_of_keys {s t : Store} {meeting : Uuid} {due : List EvidenceKey} (h : s.Leads t)
    (keys : (t.evidenceFrom meeting).map keyOf = (s.evidenceFrom meeting).map keyOf ++ due) :
    ∃ rows, t.evidenceFrom meeting = s.evidenceFrom meeting ++ rows ∧ rows.map keyOf = due := by
  obtain ⟨rows, hrows⟩ := h.evidence.filter fun e => e.meetingId = meeting
  refine ⟨rows, hrows.symm, ?_⟩
  rw [Store.evidenceFrom, ← hrows, List.map_append] at keys
  exact List.append_cancel_left keys

theorem leads_merged (turns : List (Nat × Conditions)) :
    b.store.Leads (merged provider b batches turns).backend.store :=
  Interleaving.leads_run (merging b batches) provider turns

private theorem returns_run (calm : ∀ u ∈ turns, u.2.faults = []) {i : Nat} {x : Batch}
    (hx : batches[i]? = some x)
    (enough : (x.findings.map mostCalls).sum ≤ turns.countP fun u => u.1 = i) :
    ((merged provider b batches turns).result? i).isSome := by
  have answered : (∃ r, (merged provider b batches turns).result? i = some r) ∨
      ∃ t, (merged provider b batches turns).threads[i]? = some t ∧
        t.past.length = 0 + turns.countP fun u => u.1 = i :=
    Interleaving.past_run (launched_merging hx) turns
  rcases answered with ⟨r, ended⟩ | ⟨t, stands, hlength⟩
  · exact Option.isSome_iff_exists.mpr ⟨r, ended⟩
  · obtain ⟨xs, rest, stands', takes, _⟩ := takes_run provider b calm hx
    obtain rfl := Option.some.inj (stands'.symm.trans stands)
    cases hr : rest.result? with
    | some r =>
      exact Option.isSome_iff_exists.mpr ⟨r, by rw [Interleaving.result?, stands']; exact hr⟩
    | none =>
      have fewer := (endsWithin_apply x.meeting x.findings _ _ takes).2 hr
      replace hlength : xs.length = _ := hlength
      omega

private theorem made_new (complete : Complete provider b batches turns) {i : Nat} {id : Uuid}
    (made : id ∈ (merged provider b batches turns).made i) :
    id ∈ (merged provider b batches turns).backend.store.opportunities.map OpportunityRecord.id ∧
      id ∉ knownTo b := by
  have ids := ids_run complete
  have there : id ∈ ((merged provider b batches turns).threads.map
      fun t => opportunitiesCreated t.past).flatten := by
    unfold Merges.made at made
    cases stands : (merged provider b batches turns).threads[i]? with
    | none => simp [stands] at made
    | some t =>
      refine List.mem_flatten.mpr ⟨_, List.mem_map_of_mem (List.mem_of_getElem? stands), ?_⟩
      simpa [stands] using made
  have distinct := (List.nodup_append.mp (ids.nodup complete.rows.opportunities)).2.2
  exact ⟨ids.symm.subset (List.mem_append_right _ there), fun old => distinct id old id there rfl⟩

/-- A renaming of what the merges of one state have made to what those of another have made. -/
structure Renames (batches : List Batch) (rename : Uuid → Uuid) (v w : Merges) : Prop where
  made : ∀ i, w.made i = (v.made i).map rename
  old : ∀ id, (∀ i, id ∉ v.made i) → rename id = id
  ids : ((v.backend.store.opportunities.map OpportunityRecord.id).map rename).Perm
    (w.backend.store.opportunities.map OpportunityRecord.id)
  /-- No match refers to what a merge has made. -/
  references : ∀ x ∈ batches, ∀ id ∈ x.references, rename id = id

private theorem exists_renames (stored : ∀ x ∈ batches, (b.store.meetings.find? x.meeting).isSome)
    (complete : Complete provider b batches turns)
    (complete' : Complete provider b batches turns') :
    ∃ rename, Renames batches rename (merged provider b batches turns)
      (merged provider b batches turns') := by
  have ids := ids_run complete
  obtain ⟨rename, lists, others, all⟩ := exists_renaming (ids.nodup complete.rows.opportunities)
    ((length_made stored complete).trans (length_made stored complete').symm)
  have old : ∀ id, (∀ i, id ∉ (merged provider b batches turns).made i) → rename id = id := by
    refine fun id unmade => others id fun hid => ?_
    obtain ⟨made, hmade, hid⟩ := List.mem_flatten.mp hid
    obtain ⟨t, ht, rfl⟩ := List.mem_map.mp hmade
    obtain ⟨i, stands⟩ := List.getElem?_of_mem ht
    exact unmade i (by rwa [Merges.made_of_stands stands])
  refine ⟨rename, fun i => ?_, old, ?_, fun x hx id hid => old id fun i hmade => ?_⟩
  · have there := congrArg (fun l : List (List Uuid) => l[i]?) lists
    simp only [List.getElem?_map] at there
    rw [Merges.made, Merges.made, ← there]
    cases (merged provider b batches turns).threads[i]? <;> rfl
  · refine (ids.map rename).trans ?_
    rw [all]
    exact (ids_run complete').symm
  · obtain ⟨there, new⟩ := made_new complete hmade
    exact new (complete.rows.unreferred id (List.mem_flatMap.mpr ⟨x, hx, hid⟩) there)

section Renamed

variable {rename : Uuid → Uuid}
  (h : Renames batches rename (merged provider b batches turns) (merged provider b batches turns'))
  (stored : ∀ x ∈ batches, (b.store.meetings.find? x.meeting).isSome)
  (complete : Complete provider b batches turns) (complete' : Complete provider b batches turns')

include h stored complete complete'

theorem Renames.results (i : Nat) :
    (merged provider b batches turns').result? i =
      ((merged provider b batches turns).result? i).map (Except.map (Summary.rename rename)) := by
  cases hx : batches[i]? with
  | none => simp [Interleaving.result?, threads_of_none hx]
  | some x =>
    obtain ⟨t, r, stands, hr, outcome⟩ := outcome_run stored complete hx
    obtain ⟨t', r', stands', hr', outcome'⟩ := outcome_run stored complete' hx
    rw [hr, hr', outcome.result, outcome'.result, ← Merges.made_of_stands stands,
      ← Merges.made_of_stands stands', h.made i,
      verdict_rename (h.references x (List.mem_of_getElem? hx))]
    rfl

theorem Renames.created (i : Nat) :
    ((merged provider b batches turns').created i).map
        (fun o => (o.id, (merged provider b batches turns').backend.store.problemOf o)) =
      ((merged provider b batches turns).created i).map
        fun o => (rename o.id, (merged provider b batches turns).backend.store.problemOf o) := by
  cases hx : batches[i]? with
  | none =>
    have nothing : ∀ turns, (merged provider b batches turns).created i = [] := fun turns => by
      simp [Merges.created, Merges.made, threads_of_none hx]
    rw [nothing, nothing]
    rfl
  | some x =>
    obtain ⟨inOrder, problems⟩ := created_run stored complete hx
    obtain ⟨inOrder', problems'⟩ := created_run stored complete' hx
    rw [← List.zip_map', problems', inOrder', h.made i, ← inOrder, ← problems, List.map_map]
    exact List.zip_map'

theorem Renames.evidence (apart : (batches.map Batch.meeting).Nodup) (meeting : Uuid) :
    ∃ rows rows',
      (merged provider b batches turns).backend.store.evidenceFrom meeting =
          b.store.evidenceFrom meeting ++ rows ∧
        (merged provider b batches turns').backend.store.evidenceFrom meeting =
          b.store.evidenceFrom meeting ++ rows' ∧
        rows'.map keyOf = rows.map fun e => renameKey rename (keyOf e) := by
  by_cases other : ∀ x ∈ batches, x.meeting ≠ meeting
  · obtain ⟨rows, hrows, hkeys⟩ := evidence_of_keys (leads_merged turns)
      ((keys_run_of_other complete other).trans (List.append_nil _).symm)
    obtain ⟨rows', hrows', hkeys'⟩ := evidence_of_keys (leads_merged turns')
      ((keys_run_of_other complete' other).trans (List.append_nil _).symm)
    refine ⟨rows, rows', hrows, hrows', ?_⟩
    rw [List.map_eq_nil_iff.mp hkeys, hkeys']
    rfl
  · obtain ⟨x, member, rfl⟩ : ∃ x ∈ batches, x.meeting = meeting := by
      simpa using other
    obtain ⟨i, hx⟩ := List.getElem?_of_mem member
    obtain ⟨rows, hrows, hkeys⟩ := evidence_of_keys (leads_merged turns)
      (keys_run apart stored complete hx)
    obtain ⟨rows', hrows', hkeys'⟩ := evidence_of_keys (leads_merged turns')
      (keys_run apart stored complete' hx)
    refine ⟨rows, rows', hrows, hrows', ?_⟩
    -- Only the matches before the one that is refused are filed.
    have fixed : ∀ id ∈ (applicable (knownTo b) x.findings).filterMap Finding.matchedId?,
        rename id = id := by
      refine fun id hid => h.references x member id ?_
      exact ((List.takeWhile_sublist _).filterMap _).subset hid
    rw [hkeys', h.made i, keysDue_rename fixed, ← hkeys, List.map_map]
    rfl

end Renamed

private theorem agree_run (apart : (batches.map Batch.meeting).Nodup)
    (stored : ∀ x ∈ batches, (b.store.meetings.find? x.meeting).isSome)
    (complete : Complete provider b batches turns)
    (complete' : Complete provider b batches turns') :
    ∃ rename, Agree b rename (merged provider b batches turns)
      (merged provider b batches turns') := by
  obtain ⟨rename, h⟩ := exists_renames stored complete complete'
  have distinct := h.ids.symm.nodup complete'.rows.opportunities
  refine ⟨rename, h.old, h.ids, ?_, h.results stored complete complete',
    h.created stored complete complete', h.evidence stored complete complete' apart, fun name => ?_⟩
  · exact fun x hx y hy => List.inj_on_of_nodup_map distinct hx hy
  · rw [mem_names_run stored complete, mem_names_run stored complete']

/-- In whatever order their calls are answered, merges for different stored meetings come to the
same results and the same rows, up to a renaming of the new opportunities. -/
theorem independent_of_apart (provider : Provider) (apart : (batches.map Batch.meeting).Nodup)
    (stored : ∀ x ∈ batches, (b.store.meetings.find? x.meeting).isSome) :
    Independent provider b batches where
  agree turns turns' complete complete' := agree_run apart stored complete complete'
  returns turns calm i x hx enough := returns_run calm hx enough
  inTurn calm rows := by
    obtain ⟨turns, peaceful, backend, results⟩ :=
      Interleaving.exists_turns_inTurn provider calm (batches.map Batch.program)
    refine ⟨turns, ⟨peaceful, fun i hi => ?_, ?_⟩, backend, results⟩
    · have returned := (Program.length_runInTurn provider (batches.map Batch.program) b).trans
        (List.length_map _)
      rw [merged, merging, results i, List.getElem?_eq_getElem (returned ▸ hi)]
      rfl
    · rw [merged, merging, backend]
      exact rows

end Agreement

def crowded : Backend :=
  [Call.createMeeting ⟨"Customer call", "notes", .manual, none⟩,
    .createMeeting ⟨"Review", "more notes", .manual, none⟩,
    .createTheme "billing",
    .createOpportunity ⟨"Admins", "Invoices are wrong", none, none, some default⟩].foldl
      (fun b c => (b.answer (fun _ _ => .ok []) c).2) .vacant

def unheardOf : Uuid := ⟨42⟩

/-- Two meetings ask for one new theme, and a match of the second refers to nothing. -/
def rivalling : List Batch :=
  [⟨default,
      [.proposed ⟨"Owners", "Exports fail", none, none, some "Export", [⟨"It stops", none⟩]⟩,
        .matched ⟨some (Uuid.toText default), [⟨"Still wrong", some "Renewal"⟩]⟩]⟩,
    ⟨Uuid.next default,
      [.proposed ⟨"Admins", "Exports are slow", none, none, some "EXPORT", [⟨"An hour", none⟩]⟩,
        .matched ⟨some (Uuid.toText unheardOf), [⟨"Nobody answers", none⟩]⟩]⟩]

def supplied (callers : List Nat) : List (Nat × Conditions) :=
  callers.mapIdx fun k i =>
    let id : Uuid := ⟨BitVec.ofNat 128 (100 + k)⟩
    (i, ⟨[], ⟨id, id, id, id⟩, default⟩)

def byTurns : List (Nat × Conditions) := supplied [0, 1, 0, 1, 0, 1, 0, 1, 0, 1, 1]

def secondFirst : List (Nat × Conditions) := supplied [1, 1, 1, 1, 1, 0, 0, 0, 0]

theorem independent_of_rivalling :
    Complete (fun _ _ => .ok []) crowded rivalling byTurns ∧
      Complete (fun _ _ => .ok []) crowded rivalling secondFirst ∧
      (merged (fun _ _ => .ok []) crowded rivalling byTurns).made 0 = [⟨104⟩] ∧
      (merged (fun _ _ => .ok []) crowded rivalling secondFirst).made 0 = [⟨106⟩] ∧
      (merged (fun _ _ => .ok []) crowded rivalling byTurns).result? 1 =
        some (.error (.opportunityNotFound unheardOf)) ∧
      (∃ rename, Agree crowded rename (merged (fun _ _ => .ok []) crowded rivalling byTurns)
        (merged (fun _ _ => .ok []) crowded rivalling secondFirst)) ∧
      ∃ turns, Complete (fun _ _ => .ok []) crowded rivalling turns ∧
        (merged (fun _ _ => .ok []) crowded rivalling turns).backend =
          (Program.runInTurn (fun _ _ => .ok []) (rivalling.map Batch.program) crowded).2 := by
  have independent : Independent (fun _ _ => .ok []) crowded rivalling :=
    independent_of_apart _ (by decide +kernel) (by decide +kernel)
  have first : Complete (fun _ _ => .ok []) crowded rivalling byTurns := by decide +kernel
  have second : Complete (fun _ _ => .ok []) crowded rivalling secondFirst := by decide +kernel
  obtain ⟨turns, complete, backend, _⟩ := independent.inTurn rfl (by decide +kernel)
  exact ⟨first, second, by decide +kernel, by decide +kernel, by decide +kernel,
    independent.agree _ _ first second, turns, complete, backend⟩

end Merge

end MeetingInsights
