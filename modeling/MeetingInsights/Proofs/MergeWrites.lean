import Mathlib.Data.List.Forall2
import Mathlib.Data.List.Iterate
import MeetingInsights.Proofs.MergeExchanges
import MeetingInsights.Proofs.ReachableStores
import MeetingInsights.Proofs.ThemeResolution

/-! # What a merge writes

The rows that are due for findings are said here without the merge: opportunities for the proposals,
themes under the names that are not taken, evidence for the quotes that are not blank. Each step of a
merge that nothing disturbs writes the rows that are due for it, and rows that are due for one part
and then for another are due for both.
-/

namespace MeetingInsights

/-- The next `n` identifiers from this one on, as a supply gives them. -/
def Uuid.upcoming (u : Uuid) (n : Nat) : List Uuid := List.iterate Uuid.next u n

theorem Uuid.upcoming_add (u : Uuid) (m n : Nat) :
    u.upcoming (m + n) = u.upcoming m ++ Uuid.upcoming (Uuid.next^[m] u) n :=
  List.iterate_add Uuid.next u m n

def Match.id? (m : Match) : Option Uuid :=
  m.reference.bind fun raw => Uuid.parse? (Text.trim raw)

def Proposal.themeName? (p : Proposal) : Option String := p.theme.bind Theme.normalizeName

namespace Finding

def proposal? : Finding → Option Proposal
  | proposed p => some p
  | matched _ => none

def matchedId? : Finding → Option Uuid
  | proposed _ => none
  | matched m => m.id?

end Finding

def Quote.blank (qs : List Quote) : List Quote := qs.filter fun q => Text.isBlankText q.text

/-- The names that are used but not yet known, each once, in the order of their first use. -/
def Theme.newNames (known used : List String) : List String :=
  (used.filter fun name => name ∉ known).eraseDups

theorem Theme.newNames_singleton (known : List String) (name : String) :
    Theme.newNames known [name] = if name ∈ known then [] else [name] := by
  by_cases h : name ∈ known <;> simp [Theme.newNames, h, List.eraseDups_cons]

theorem Theme.newNames_append (known xs ys : List String) :
    Theme.newNames known (xs ++ ys) =
      Theme.newNames known xs ++ Theme.newNames (known ++ Theme.newNames known xs) ys := by
  simp only [Theme.newNames, List.filter_append, List.eraseDups_append, List.removeAll,
    List.filter_filter, List.mem_append, List.mem_eraseDups]
  congr 3
  funext name
  by_cases h : name ∈ known <;> simp [h]

theorem Theme.length_newNames_le (known used : List String) :
    (Theme.newNames known used).length ≤ used.length := by
  induction used generalizing known with
  | nil => exact Nat.le_refl 0
  | cons name used ih =>
    have one : (Theme.newNames known [name]).length ≤ 1 := by
      rw [Theme.newNames_singleton]
      split <;> simp
    rw [← List.singleton_append, Theme.newNames_append, List.length_append, List.length_append]
    exact Nat.add_le_add one (ih _)

theorem Theme.nodup_append_newNames {known : List String} (distinct : known.Nodup)
    (used : List String) : (known ++ Theme.newNames known used).Nodup := by
  induction used generalizing known with
  | nil => simpa [Theme.newNames] using distinct
  | cons name used ih =>
    have one : (known ++ Theme.newNames known [name]).Nodup := by
      rw [Theme.newNames_singleton]
      split
      · rwa [List.append_nil]
      · rename_i new
        simpa using List.Nodup.concat new distinct
    rw [← List.singleton_append, Theme.newNames_append, ← List.append_assoc]
    exact ih one

namespace Merge

def proposals (fs : List Finding) : List Proposal := fs.filterMap Finding.proposal?

/-- Evidence as it is due: the opportunity, the meeting, and the words. -/
abbrev EvidenceKey : Type := Uuid × Uuid × String × Option String

def keyOf (e : Evidence) : EvidenceKey := (e.opportunityId, e.meetingId, e.words)

def keysFor (opportunity meeting : Uuid) (qs : List Quote) : List EvidenceKey :=
  (Quote.telling qs).map fun q => (opportunity, meeting, q.words)

/-- The evidence that is due for findings, when the proposals among them make opportunities under
`next` and the identifiers that follow it. -/
def evidenceDue (meeting : Uuid) : (next : Uuid) → List Finding → List EvidenceKey
  | _, [] => []
  | next, .proposed p :: fs => keysFor next meeting p.quotes ++ evidenceDue meeting next.next fs
  | next, .matched m :: fs =>
    (match m.id? with
      | some id => keysFor id meeting m.quotes
      | none => []) ++ evidenceDue meeting next fs

/-- An opportunity repeats a proposal word for word. -/
structure Repeats (p : Proposal) (o : OpportunityRecord) : Prop where
  userSegment : o.userSegment = p.userSegment
  struggle : o.struggle = p.struggle
  whyItMatters : o.whyItMatters = p.whyItMatters
  workaround : o.workaround = p.workaround

/-- A name is kept as the identifier of the theme that is found under it, and no name as none. -/
def Files (s : Store) : Option String → Option Uuid → Prop :=
  Option.Rel fun name id => ∃ t, s.findTheme? name = some t ∧ t.id = id

def NewThemes (names : List String) (b b' : Backend) : Prop :=
  ∃ rows, b'.store.themes = b.store.themes ++ rows ∧
    rows.map Theme.name = Theme.newNames (b.store.themes.map Theme.name) names ∧
    rows.map Theme.id = b.supply.theme.upcoming rows.length ∧
    b'.supply.theme = Uuid.next^[rows.length] b.supply.theme

/-- Of one backend another has come by writing what is due for some proposals and some quotes. -/
structure Written (ps : List Proposal) (due : List EvidenceKey) (b b' : Backend) : Prop where
  meetings : b'.store.meetings = b.store.meetings
  faults : b'.faults = b.faults
  themes : NewThemes (ps.filterMap Proposal.themeName?) b b'
  opportunities : ∃ rows, b'.store.opportunities = b.store.opportunities ++ rows ∧
    rows.map OpportunityRecord.id = b.supply.opportunity.upcoming ps.length ∧
    List.Forall₂ (fun p o => Repeats p o ∧ Files b'.store p.themeName? o.themeId) ps rows
  supply : b'.supply.opportunity = Uuid.next^[ps.length] b.supply.opportunity
  evidence : ∃ rows, b'.store.evidence = b.store.evidence ++ rows ∧ rows.map keyOf = due

variable {b b₁ b' : Backend}

theorem newThemes_nil (themes : b'.store.themes = b.store.themes)
    (supply : b'.supply.theme = b.supply.theme) : NewThemes [] b b' :=
  ⟨[], by simp [themes], rfl, rfl, supply⟩

theorem NewThemes.append {xs ys : List String} (h : NewThemes xs b b₁) (k : NewThemes ys b₁ b') :
    NewThemes (xs ++ ys) b b' := by
  obtain ⟨us, hthemes, hnames, hids, hsupply⟩ := h
  obtain ⟨vs, kthemes, knames, kids, ksupply⟩ := k
  refine ⟨us ++ vs, by rw [kthemes, hthemes, List.append_assoc], ?_, ?_, ?_⟩
  · rw [List.map_append, hnames, knames, hthemes, List.map_append, hnames, Theme.newNames_append]
  · rw [List.map_append, hids, kids, hsupply, List.length_append, Uuid.upcoming_add]
  · rw [ksupply, hsupply, ← Function.iterate_add_apply, List.length_append, Nat.add_comm]

theorem Files.mono {s s' : Store} {name : Option String} {id : Option Uuid} (h : Files s name id)
    (kept : s.themes <+: s'.themes) : Files s' name id := by
  cases h with
  | none => exact .none
  | some found =>
    obtain ⟨t, ht, hid⟩ := found
    obtain ⟨rows, hrows⟩ := kept
    refine .some ⟨t, ?_, hid⟩
    rw [Store.findTheme?, ← hrows, List.find?_append]
    rw [Store.findTheme?] at ht
    simp [ht]

theorem files_added {s : Store} (theme : Theme) (new : s.findTheme? theme.name = none) :
    Files { s with themes := s.themes ++ [theme] } (some theme.name) (some theme.id) := by
  refine .some ⟨theme, ?_, rfl⟩
  rw [Store.findTheme?] at new
  rw [Store.findTheme?, List.find?_append, new]
  simp

theorem Written.refl (b : Backend) : Written [] [] b b where
  meetings := rfl
  faults := rfl
  themes := newThemes_nil rfl rfl
  opportunities := ⟨[], by simp, rfl, .nil⟩
  supply := rfl
  evidence := ⟨[], by simp, rfl⟩

theorem Written.append {ps qs : List Proposal} {due more : List EvidenceKey}
    (h : Written ps due b b₁) (k : Written qs more b₁ b') :
    Written (ps ++ qs) (due ++ more) b b' where
  meetings := k.meetings.trans h.meetings
  faults := k.faults.trans h.faults
  themes := by
    rw [List.filterMap_append]
    exact h.themes.append k.themes
  opportunities := by
    obtain ⟨us, hrows, hids, hsame⟩ := h.opportunities
    obtain ⟨vs, krows, kids, ksame⟩ := k.opportunities
    obtain ⟨themes, kept, _⟩ := k.themes
    refine ⟨us ++ vs, by rw [krows, hrows, List.append_assoc], ?_, ?_⟩
    · rw [List.map_append, hids, kids, h.supply, List.length_append, Uuid.upcoming_add]
    · refine List.rel_append (hsame.imp fun p o ⟨same, files⟩ => ⟨same, ?_⟩) ksame
      exact files.mono ⟨themes, kept.symm⟩
  supply := by
    rw [k.supply, h.supply, ← Function.iterate_add_apply, List.length_append, Nat.add_comm]
  evidence := by
    obtain ⟨us, hrows, hkeys⟩ := h.evidence
    obtain ⟨vs, krows, kkeys⟩ := k.evidence
    exact ⟨us ++ vs, by rw [krows, hrows, List.append_assoc],
      by rw [List.map_append, hkeys, kkeys]⟩

/-- The opportunity and the meeting that evidence is to be about are stored. -/
def Holds (b : Backend) (opportunity meeting : Uuid) : Prop :=
  (b.store.opportunityRecord? opportunity).isSome ∧ (b.store.meetings.find? meeting).isSome

theorem opportunityRecord?_isSome_iff {s : Store} {id : Uuid} :
    (s.opportunityRecord? id).isSome ↔ id ∈ s.opportunities.map OpportunityRecord.id := by
  simp [Store.opportunityRecord?, List.find?_isSome]

theorem Holds.written {ps : List Proposal} {due : List EvidenceKey} {opportunity meeting : Uuid}
    (h : Holds b opportunity meeting) (w : Written ps due b b') : Holds b' opportunity meeting := by
  refine ⟨?_, w.meetings ▸ h.2⟩
  obtain ⟨rows, hrows, _⟩ := w.opportunities
  have there := opportunityRecord?_isSome_iff.mp h.1
  rw [opportunityRecord?_isSome_iff, hrows, List.map_append]
  exact List.mem_append_left _ there

private theorem run_attachQuote {opportunity meeting : Uuid} (calm : b.faults = [])
    (holds : Holds b opportunity meeting) {q : Quote} (telling : ¬ Text.isBlankText q.text = true)
    (provider : Provider) :
    ∃ b', (attachQuote opportunity meeting q).run provider b = (.ok .added, b') ∧
      Written [] [(opportunity, meeting, q.words)] b b' := by
  obtain ⟨o, ho⟩ := Option.isSome_iff_exists.mp holds.1
  obtain ⟨m, hm⟩ := Option.isSome_iff_exists.mp holds.2
  let draft : EvidenceDraft := ⟨opportunity, meeting, q.text, nonEmptyContext q.context⟩
  let row := Evidence.ofDraft draft b.supply.evidence b.now
  refine ⟨{ b with
    store := { b.store with evidence := b.store.evidence ++ [row] }
    supply := { b.supply with evidence := b.supply.evidence.next } }, ?_, ?_⟩
  · have added : b.answer provider (.addEvidence draft) = _ := Backend.answer_of_faultless calm _
    simp only [Backend.perform, Store.addEvidence, draft, ho, hm, Option.isNone_some,
      Bool.false_eq_true, if_false] at added
    rw [attachQuote, if_neg telling]
    exact Attempt.run_bind_of_ok (t := (Call.addEvidence draft).attempt) added _
  · exact
      { meetings := rfl
        faults := rfl
        themes := newThemes_nil rfl rfl
        opportunities := ⟨[], by simp, rfl, .nil⟩
        supply := rfl
        evidence := ⟨[row], rfl, congrArg (fun w => [(opportunity, meeting, w)])
          (EvidenceDraft.words_of_quote opportunity meeting q)⟩ }

private theorem run_attachQuote_of_not_holds {opportunity meeting : Uuid} (calm : b.faults = [])
    (lacks : ¬ Holds b opportunity meeting) {q : Quote} (telling : ¬ Text.isBlankText q.text = true)
    (provider : Provider) :
    ∃ e, (attachQuote opportunity meeting q).run provider b = (.error e, b) := by
  let draft : EvidenceDraft := ⟨opportunity, meeting, q.text, nonEmptyContext q.context⟩
  have refused : ∃ e, b.answer provider (.addEvidence draft) = (.error e, b) := by
    rw [Backend.answer_of_faultless calm]
    simp only [Backend.perform, Store.addEvidence, draft]
    cases ho : b.store.opportunityRecord? opportunity with
    | none => exact ⟨_, rfl⟩
    | some o =>
      cases hm : b.store.meetings.find? meeting with
      | none => exact ⟨_, rfl⟩
      | some m => exact (lacks ⟨by simp [ho], by simp [hm]⟩).elim
  obtain ⟨e, he⟩ := refused
  rw [attachQuote, if_neg telling]
  exact ⟨e, Attempt.run_bind_of_error (t := (Call.addEvidence draft).attempt) he _⟩

/-- The summary of quotes that are attached. -/
def attached (qs : List Quote) : Summary :=
  ⟨[], [], (Quote.telling qs).length, (Quote.blank qs).length⟩

theorem attached_cons_of_blank {q : Quote} (hq : Text.isBlankText q.text = true)
    (qs : List Quote) : .skipped ++ attached qs = attached (q :: qs) := by
  change Summary.append .skipped (attached qs) = _
  simp [Summary.append, Summary.skipped, Summary.empty, attached, Quote.telling, Quote.blank, hq,
    Nat.add_comm]

theorem attached_cons_of_telling {q : Quote} (hq : ¬ Text.isBlankText q.text = true)
    (qs : List Quote) : .added ++ attached qs = attached (q :: qs) := by
  change Summary.append .added (attached qs) = _
  simp [Summary.append, Summary.added, Summary.empty, attached, Quote.telling, Quote.blank, hq,
    Nat.add_comm]

section Sequence

variable {α : Type} {t : Attempt α} {u : α → Attempt Summary} {tell : α → Summary} {a : α}
  {provider : Provider}

theorem run_sequence {s : Summary} (ht : t.run provider b = (.ok a, b₁))
    (hu : (u a).run provider b₁ = (.ok s, b')) :
    Attempt.run provider (t >>= fun a => u a >>= fun s => pure (tell a ++ s)) b =
      (.ok (tell a ++ s), b') := by
  rw [Attempt.run_bind_of_ok ht, Attempt.run_bind_of_ok hu, Attempt.run_pure]

theorem run_sequence_of_error {e : Error} (ht : t.run provider b = (.ok a, b₁))
    (hu : (u a).run provider b₁ = (.error e, b')) :
    Attempt.run provider (t >>= fun a => u a >>= fun s => pure (tell a ++ s)) b =
      (.error e, b') := by
  rw [Attempt.run_bind_of_ok ht, Attempt.run_bind_of_error hu]

end Sequence

theorem run_attachQuotes {opportunity meeting : Uuid} {qs : List Quote} (calm : b.faults = [])
    (holds : Quote.telling qs ≠ [] → Holds b opportunity meeting) (provider : Provider) :
    ∃ b', (attachQuotes opportunity meeting qs).run provider b = (.ok (attached qs), b') ∧
      Written [] (keysFor opportunity meeting qs) b b' := by
  induction qs generalizing b with
  | nil => exact ⟨b, rfl, .refl b⟩
  | cons q qs ih =>
    by_cases hq : Text.isBlankText q.text = true
    · have same : Quote.telling (q :: qs) = Quote.telling qs := by simp [Quote.telling, hq]
      have first : (attachQuote opportunity meeting q).run provider b = (.ok .skipped, b) := by
        rw [attachQuote, if_pos hq, Attempt.run_pure]
      obtain ⟨b', rest, written⟩ := ih calm (same ▸ holds)
      rw [keysFor, same, ← attached_cons_of_blank hq]
      exact ⟨b', run_sequence first rest, written⟩
    · have more : Quote.telling (q :: qs) = q :: Quote.telling qs := by simp [Quote.telling, hq]
      have there := holds (by simp [more])
      obtain ⟨b₁, first, written⟩ := run_attachQuote calm there hq provider
      obtain ⟨b', rest, written'⟩ := ih (written.faults.trans calm) fun _ => there.written written
      rw [keysFor, more, ← attached_cons_of_telling hq]
      exact ⟨b', run_sequence first rest, written.append written'⟩

theorem run_attachQuotes_of_not_holds {opportunity meeting : Uuid} {qs : List Quote}
    (calm : b.faults = []) (lacks : ¬ Holds b opportunity meeting)
    (telling : Quote.telling qs ≠ []) (provider : Provider) :
    ∃ e b', (attachQuotes opportunity meeting qs).run provider b = (.error e, b') := by
  induction qs with
  | nil => exact (telling rfl).elim
  | cons q qs ih =>
    by_cases hq : Text.isBlankText q.text = true
    · have first : (attachQuote opportunity meeting q).run provider b = (.ok .skipped, b) := by
        rw [attachQuote, if_pos hq, Attempt.run_pure]
      obtain ⟨e, b', rest⟩ := ih (by simpa [Quote.telling, hq] using telling)
      exact ⟨e, b', run_sequence_of_error first rest⟩
    · obtain ⟨e, first⟩ := run_attachQuote_of_not_holds calm lacks hq provider
      exact ⟨e, b, Attempt.run_bind_of_error first _⟩

private theorem files_fileTheme (b : Backend) (name : Option String) :
    Files (fileTheme b name).2.store name (fileTheme b name).1 := by
  cases name with
  | none => exact .none
  | some name =>
    simp only [fileTheme, settleTheme]
    cases there : b.store.findTheme? name with
    | some t => exact .some ⟨t, there, rfl⟩
    | none => exact files_added ⟨b.supply.theme, name, b.now⟩ there

private theorem newThemes_fileTheme (b : Backend) (name : Option String) :
    NewThemes name.toList b (fileTheme b name).2 := by
  cases name with
  | none => exact newThemes_nil rfl rfl
  | some name =>
    simp only [fileTheme, settleTheme]
    cases there : b.store.findTheme? name with
    | some t =>
      have known : name ∈ b.store.themes.map Theme.name := by
        by_contra unknown
        rw [Store.findTheme?_eq_none_iff.mpr unknown] at there
        cases there
      exact ⟨[], by simp, ((Theme.newNames_singleton _ _).trans (if_pos known)).symm, rfl, rfl⟩
    | none =>
      have unknown := Store.findTheme?_eq_none_iff.mp there
      exact ⟨[⟨b.supply.theme, name, b.now⟩], rfl,
        ((Theme.newNames_singleton _ _).trans (if_neg unknown)).symm, rfl, rfl⟩

private theorem fileTheme_snd (b : Backend) (name : Option String) :
    ∃ themes next, (fileTheme b name).2 =
      { b with
        store := { b.store with themes := themes }
        supply := { b.supply with theme := next } } := by
  cases name with
  | none => exact ⟨_, _, rfl⟩
  | some name =>
    simp only [fileTheme, settleTheme]
    cases b.store.findTheme? name <;> exact ⟨_, _, rfl⟩

theorem Files.accepted {s : Store} {name : Option String} {id : Option Uuid}
    (h : Files s name id) : s.acceptsTheme id = true := by
  cases h with
  | none => rfl
  | some found =>
    obtain ⟨t, ht, rfl⟩ := found
    exact List.find?_isSome.mpr ⟨t, (Store.findTheme?_eq_some ht).1, by simp⟩

theorem run_createOpportunity (calm : b.faults = []) (p : Proposal) (provider : Provider) :
    ∃ b', (createOpportunity p).run provider b = (.ok b.supply.opportunity, b') ∧
      Written [p] [] b b' := by
  have filed := run_themeOf calm provider p.theme
  have files := files_fileTheme b p.themeName?
  have themes := newThemes_fileTheme b p.themeName?
  obtain ⟨rows, next, hb₁⟩ := fileTheme_snd b p.themeName?
  rw [← Proposal.themeName?] at filed
  generalize fileTheme b p.themeName? = filing at filed files themes hb₁
  obtain ⟨id, b₁⟩ := filing
  obtain rfl : b₁ = _ := hb₁
  let draft : OpportunityDraft := ⟨p.userSegment, p.struggle, p.whyItMatters, p.workaround, id⟩
  let row := OpportunityRecord.ofDraft draft b.supply.opportunity b.now
  refine ⟨{ b with
    store := { b.store with themes := rows, opportunities := b.store.opportunities ++ [row] }
    supply := { b.supply with theme := next, opportunity := b.supply.opportunity.next } }, ?_, ?_⟩
  · rw [createOpportunity, Attempt.run_bind_of_ok filed, Attempt.run_attempt,
      Backend.answer_of_faultless (by exact calm)]
    simp only [Backend.perform, Store.createOpportunity]
    rw [if_pos files.accepted]
  · exact
      { meetings := rfl
        faults := rfl
        themes := by
          have one : [p].filterMap Proposal.themeName? = p.themeName?.toList := by
            cases h : p.themeName? <;> simp [h]
          rw [one]
          exact themes
        opportunities := ⟨[row], rfl, rfl, .cons ⟨⟨rfl, rfl, rfl, rfl⟩, files⟩ .nil⟩
        supply := rfl
        evidence := ⟨[], by simp, rfl⟩ }

end Merge

end MeetingInsights
