import MeetingInsights.Proofs.MergeAccounts
import MeetingInsights.Proofs.NormalNames
import MeetingInsights.Proofs.ServicesSideBySide

/-! # Stored texts

A store takes any name of a theme and any quote. What stands in one that services have written is
clean all the same: names are normalized before they are searched and stored, and a quote is stored
only as one of the findings for its meeting, if it says something.
-/

namespace MeetingInsights

/-- Each theme is stored under a normalized name, and under a name of its own. -/
structure Store.NamesNormalized (s : Store) : Prop where
  normalized : ∀ t ∈ s.themes, ∃ raw, Theme.normalizeName raw = some t.name
  apart : (s.themes.map Theme.name).Nodup

theorem Store.NamesNormalized.answer {b : Backend} (h : b.store.NamesNormalized)
    (provider : Provider) {c : Call} (proper : c.IsProper) :
    (b.answer provider c).2.store.NamesNormalized where
  apart := Store.nodup_names_effect h.apart (b.effect_answer provider c)
  normalized := by
    have writes := Merge.writes_answer b provider c
    generalize hx : (⟨c, (b.answer provider c).1⟩ : Exchange) = x,
      (b.answer provider c).2.store = s at writes ⊢
    obtain rfl : c = x.call := congrArg Exchange.call hx
    cases writes with
    | nothing _ _ _ _ same _ =>
      rw [same]
      exact h.normalized
    | opportunity | evidence => exact h.normalized
    | theme name =>
      exact List.forall_mem_append.mpr ⟨h.normalized, List.forall_mem_singleton.mpr proper⟩

namespace Errand

/-- The findings that an errand applies once it is under way, with their meeting. Those of a job are
what the provider has answered. -/
def applying : Errand → List Exchange → List (Uuid × List Finding)
  | apply meeting findings, _ :: _ => [(meeting, findings)]
  | process id, past => (findingsGiven past).map fun findings => (id, findings)
  | _, _ => []

def Quotes (findings : List Finding) (words : String × Option String) : Prop :=
  ∃ q ∈ Quote.telling (findings.flatMap Finding.quotes), q.words = words

theorem quotes_of_prefix {findings : List Finding} {added : List EvidenceDraft}
    (h : added.map EvidenceDraft.words <+:
      (Quote.telling (findings.flatMap Finding.quotes)).map Quote.words) {draft : EvidenceDraft}
    (mem : draft ∈ added) : Quotes findings draft.words :=
  List.mem_map.mp (h.subset (List.mem_map_of_mem mem))

theorem meeting_of_evidenceAdded {xs : List Exchange} {meeting : Uuid}
    (calls : ∀ x ∈ xs, ∀ draft, x.call = .addEvidence draft → draft.meetingId = meeting)
    {draft : EvidenceDraft} (mem : draft ∈ evidenceAdded xs) : draft.meetingId = meeting :=
  have ⟨x, hx, added⟩ := List.mem_filterMap.mp mem
  calls x hx draft (Exchange.evidence?_eq_some added)

private theorem quotes_of_apply {meeting : Uuid} {findings : List Finding} {xs : List Exchange}
    {o : Option (Except Error Merge.Summary)} (h : (Merge.apply meeting findings).Takes xs o)
    {draft : EvidenceDraft} (mem : draft ∈ evidenceAdded xs) :
    draft.meetingId = meeting ∧ Quotes findings draft.words := by
  have records := Merge.records_apply h
  have own : ∀ x ∈ xs, ∀ draft, x.call = .addEvidence draft → draft.meetingId = meeting := by
    intro x hx draft hc
    have merges := records.calls x hx
    rwa [hc] at merges
  exact ⟨meeting_of_evidenceAdded own mem, quotes_of_prefix records.begun mem⟩

private theorem quotes_of_process {id : Uuid} {xs : List Exchange} {o : Option Job.Outcome}
    (h : (Job.process id).Takes xs o) {draft : EvidenceDraft} (mem : draft ∈ evidenceAdded xs) :
    draft.meetingId = id ∧
      ∃ findings, findingsGiven xs = [findings] ∧ Quotes findings draft.words := by
  have course := Job.course_of_takes h
  have own : ∀ x ∈ xs, ∀ draft, x.call = .addEvidence draft → draft.meetingId = id := by
    intro x hx draft hc
    have follows := course.calls x hx
    rw [hc] at follows
    exact follows.resolve_left nofun
  refine ⟨meeting_of_evidenceAdded own mem, ?_⟩
  rcases course.recorded with ⟨_, none⟩ | ⟨findings, given, begun⟩
  · rw [none] at mem
    cases mem
  · exact ⟨findings, given, quotes_of_prefix begun mem⟩

private theorem isPlain_resolveTheme (raw : String) :
    (Merge.resolveTheme raw).Calls Call.IsPlain := by
  intro xs o h x hx
  have about := Merge.calls_themeOf (some raw) xs o h x hx
  cases hc : x.call <;> rw [hc] at about <;> first | exact about.elim | trivial

private theorem quotes_of_takes {e : Errand} {xs : List Exchange} {o : Option Unit}
    (h : e.program.Takes xs o) {draft : EvidenceDraft} (mem : draft ∈ evidenceAdded xs) :
    ∃ findings, (draft.meetingId, findings) ∈ e.applying xs ∧ Quotes findings draft.words := by
  have nothing : (∀ x ∈ xs, x.call.IsPlain) → draft ∉ evidenceAdded xs := fun plain => by
    rw [(nothing_of_isPlain plain).2.2.1]
    exact List.not_mem_nil
  cases e with
  | createMeeting draft =>
    have create : (Call.createMeeting draft).attempt.Calls Call.IsPlain :=
      Attempt.calls_attempt trivial
    exact (nothing (create.forget h) mem).elim
  | begin id =>
    have update : (Progress.begin id).Calls Call.IsPlain := Attempt.calls_attempt trivial
    exact (nothing (update.forget h) mem).elim
  | complete id =>
    have update : (Progress.complete id).Calls Call.IsPlain := Attempt.calls_attempt trivial
    exact (nothing (update.forget h) mem).elim
  | fail id message =>
    have update : (Progress.fail id message).Calls Call.IsPlain := Attempt.calls_attempt trivial
    exact (nothing (update.forget h) mem).elim
  | resolveTheme raw => exact (nothing ((isPlain_resolveTheme raw).forget h) mem).elim
  | apply meeting findings =>
    obtain ⟨o, h⟩ := Program.exists_takes_of_forget h
    obtain ⟨about, quotes⟩ := quotes_of_apply h mem
    refine ⟨findings, ?_, quotes⟩
    cases xs with
    | nil => cases mem
    | cons x xs => exact List.mem_singleton.mpr (congrArg (·, findings) about)
  | process id =>
    obtain ⟨o, h⟩ := Program.exists_takes_of_forget h
    obtain ⟨about, findings, given, quotes⟩ := quotes_of_process h mem
    refine ⟨findings, ?_, quotes⟩
    rw [applying, given]
    exact List.mem_singleton.mpr (congrArg (·, findings) about)

/-- A program has added a row of evidence, of which these are the meeting and the words. -/
def AddedBy (threads : List (Thread Unit)) (row : Evidence) : Prop :=
  ∃ (i : Nat) (t : Thread Unit), threads[i]? = some t ∧ ∃ draft ∈ evidenceAdded t.past,
    draft.meetingId = row.meetingId ∧ draft.words = row.words

theorem AddedBy.set {threads : List (Thread Unit)} {row : Evidence} (h : AddedBy threads row)
    {i : Nat} {past : List Exchange} {rest : Program Unit}
    (stands : threads[i]? = some ⟨past, rest⟩) (x : Exchange) (rest' : Program Unit) :
    AddedBy (threads.set i ⟨past ++ [x], rest'⟩) row := by
  obtain ⟨j, t, ht, draft, hdraft, row⟩ := h
  by_cases hij : i = j
  · subst hij
    obtain rfl := Option.some.inj (stands.symm.trans ht)
    obtain ⟨hi, _⟩ := List.getElem?_eq_some_iff.mp stands
    refine ⟨i, _, List.getElem?_set_self hi, draft, ?_, row⟩
    rw [evidenceAdded_append]
    exact List.mem_append_left _ hdraft
  · exact ⟨j, t, (List.getElem?_set_ne hij).trans ht, draft, hdraft, row⟩

def Attributed (w : Interleaving Unit) : Prop :=
  ∀ row ∈ w.backend.store.evidence, AddedBy w.threads row

theorem Attributed.advance {w : Interleaving Unit} (h : Attributed w) (provider : Provider)
    {i : Nat} (k : Conditions) {past : List Exchange} {c : Call} {next : c.Answer → Program Unit}
    (turn : w.threads[i]? = some ⟨past, .call c next⟩) : Attributed (w.advance provider i k) := by
  rw [Interleaving.advance_of_call turn]
  have writes := Merge.writes_answer (w.backend.under k) provider c
  generalize next ((w.backend.under k).answer provider c).1 = rest
  generalize (⟨c, ((w.backend.under k).answer provider c).1⟩ : Exchange) = x at writes ⊢
  have before : ∀ row ∈ w.backend.store.evidence,
      AddedBy (w.threads.set i ⟨past ++ [x], rest⟩) row :=
    fun row hrow => (h row hrow).set turn x rest
  change ∀ row ∈ ((w.backend.under k).answer provider c).2.store.evidence,
    AddedBy (w.threads.set i ⟨past ++ [x], rest⟩) row
  generalize ((w.backend.under k).answer provider c).2.store = s at writes ⊢
  cases writes with
  | nothing _ _ _ _ _ same =>
    rw [same]
    exact before
  | opportunity | theme => exact before
  | evidence draft =>
    obtain ⟨hi, _⟩ := List.getElem?_eq_some_iff.mp turn
    refine List.forall_mem_append.mpr ⟨before, List.forall_mem_singleton.mpr ?_⟩
    refine ⟨i, _, List.getElem?_set_self hi, draft, ?_, rfl, rfl⟩
    rw [evidenceAdded_append]
    exact List.mem_append_right _ (List.mem_singleton_self _)

/-- Findings that have been applied for a meeting, or of which the first have been. -/
def Applied (errands : List Errand) (w : Interleaving Unit) (meeting : Uuid)
    (findings : List Finding) : Prop :=
  ∃ (i : Nat) (e : Errand) (t : Thread Unit), errands[i]? = some e ∧ w.threads[i]? = some t ∧
    (meeting, findings) ∈ e.applying t.past

/-- What is clean about the texts of a store: themes have normalized names, each one of its own, and
evidence is a quote that says something, from findings that have been applied for its meeting. -/
structure Clean (errands : List Errand) (w : Interleaving Unit) : Prop where
  names : ∀ t ∈ w.backend.store.themes, t.name ≠ "" ∧ ' ' ∉ t.name.toList ∧ Theme.IsNormal t.name
  apart : (w.backend.store.themes.map fun t => Theme.normalizeName t.name).Nodup
  telling : ∀ row ∈ w.backend.store.evidence, ∃ c ∈ row.quote.toList, Text.isBlank c = false
  verbatim : ∀ row ∈ w.backend.store.evidence, ∃ findings,
    Applied errands w row.meetingId findings ∧ ∃ f ∈ findings, ∃ q ∈ f.quotes, q.text = row.quote
  contexts : ∀ row ∈ w.backend.store.evidence, row.context ≠ some ""

/-- However services have worked side by side on a store that began without rows, the texts in it
are clean. -/
theorem serve_clean (errands : List Errand) (turns : List Turn) :
    Clean errands (serve errands turns) := by
  have normalized : (serve errands turns).backend.store.NamesNormalized :=
    serve_keeps_store ⟨fun _ h => (List.not_mem_nil h).elim, List.nodup_nil⟩
      (fun _ provider _ proper h => h.answer provider proper) turns
  obtain ⟨follow, attributed⟩ : Follow errands (serve errands turns) ∧ Attributed _ :=
    serve_keeps (fun _ h => (List.not_mem_nil h).elim)
      (fun w provider i k e past c next _ turn _ h => h.advance provider k turn) turns
  generalize serve errands turns = w at normalized follow attributed ⊢
  have normal : ∀ t ∈ w.backend.store.themes, Theme.normalizeName t.name = some t.name :=
    fun t ht => have ⟨_, named⟩ := normalized.normalized t ht
      Theme.isNormal_of_normalizeName named
  have quoted : ∀ row ∈ w.backend.store.evidence, ∃ findings,
      Applied errands w row.meetingId findings ∧ Quotes findings row.words := by
    intro row hrow
    obtain ⟨i, t, ht, draft, mem, about, words⟩ := attributed row hrow
    obtain ⟨e, he, leaves⟩ := follow i t ht
    obtain ⟨findings, applied, quotes⟩ := quotes_of_takes leaves.takes mem
    exact ⟨findings, ⟨i, e, t, he, ht, about ▸ applied⟩, words ▸ quotes⟩
  constructor
  case names =>
    intro t ht
    obtain ⟨raw, named⟩ := normalized.normalized t ht
    exact ⟨Theme.ne_empty_of_normalizeName named, Theme.space_notMem_of_normalizeName named,
      normal t ht⟩
  case apart =>
    have same : w.backend.store.themes.map (fun t => Theme.normalizeName t.name) =
        (w.backend.store.themes.map Theme.name).map some := by
      rw [List.map_map]
      exact List.map_congr_left normal
    rw [same]
    exact normalized.apart.map fun _ _ => Option.some.inj
  case telling =>
    intro row hrow
    obtain ⟨findings, _, q, hq, words⟩ := quoted row hrow
    have text : q.text = row.quote := congrArg Prod.fst words
    have tells := (List.mem_filter.mp hq).2
    rw [text, Bool.not_eq_true', Text.isBlankText, List.all_eq_false] at tells
    simpa using tells
  case verbatim =>
    intro row hrow
    obtain ⟨findings, applied, q, hq, words⟩ := quoted row hrow
    obtain ⟨f, hf, mem⟩ := List.mem_flatMap.mp (List.mem_filter.mp hq).1
    exact ⟨findings, applied, f, hf, q, mem, congrArg Prod.fst words⟩
  case contexts =>
    intro row hrow
    obtain ⟨_, _, q, _, words⟩ := quoted row hrow
    have context : nonEmptyContext q.context = row.context := congrArg Prod.snd words
    exact context ▸ nonEmptyContext_ne _

/-- Findings for one meeting are applied by a caller and by a job, which both look for a theme
before either of them has made it. -/
example :
    let problem (theme : String) (qs : List Quote) : Finding :=
      .proposed ⟨"", "", none, none, theme, qs⟩
    let provider : Provider := fun _ _ => .ok [problem "data Import" [⟨"too slow", some ""⟩]]
    let calm : Conditions := ⟨[], default, default⟩
    let store := (serve [.createMeeting ⟨"Weekly", "notes", .manual, none⟩, .process default,
        .apply default [problem "Data-import" [⟨" ", none⟩, ⟨"import fails", some "twice"⟩]]]
      ([0, 1, 1, 1, 1, 1, 2, 1, 2, 2, 2, 2, 1, 1].map fun i => ⟨i, provider, calm⟩)).backend.store
    store.themes.map Theme.name = ["data-import"] ∧
      store.evidence.map Evidence.words = [("import fails", some "twice"), ("too slow", none)] := by
  decide +kernel

end Errand

end MeetingInsights
