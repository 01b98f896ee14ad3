import MeetingInsights.Proofs.LaterStores
import MeetingInsights.Proofs.MergeVerdicts

/-! # What a merge comes to among others

A merge that no fault disturbs, with any others at work in between, comes to what its findings and
the opportunities that were there say: the first finding that cannot be applied ends it, and the
ones before it are written as if nobody else were there. The others decide only which identifiers its
new opportunities get, and who makes a theme.
-/

namespace MeetingInsights

def EvidenceDraft.key (e : EvidenceDraft) : Merge.EvidenceKey :=
  (e.opportunityId, e.meetingId, e.words)

def Exchange.evidenceKey? (x : Exchange) : Option Merge.EvidenceKey :=
  x.evidence?.map EvidenceDraft.key

def Exchange.newTheme? : Exchange → Option String
  | ⟨.createTheme name, .ok _⟩ => some name
  | _ => none

def themesCreated (xs : List Exchange) : List String := xs.filterMap Exchange.newTheme?

@[simp] theorem themesCreated_nil : themesCreated [] = [] := rfl

@[simp] theorem themesCreated_append (xs ys : List Exchange) :
    themesCreated (xs ++ ys) = themesCreated xs ++ themesCreated ys := List.filterMap_append

/-- The evidence that exchanges have added, as it is due, in order. -/
def keysAdded (xs : List Exchange) : List Merge.EvidenceKey := xs.filterMap Exchange.evidenceKey?

@[simp] theorem keysAdded_nil : keysAdded [] = [] := rfl

@[simp] theorem keysAdded_append (xs ys : List Exchange) :
    keysAdded (xs ++ ys) = keysAdded xs ++ keysAdded ys := List.filterMap_append

theorem keysAdded_eq (xs : List Exchange) :
    keysAdded xs = (evidenceAdded xs).map EvidenceDraft.key :=
  List.map_filterMap.symm

namespace Merge

variable {known made more : List Uuid} {meeting : Uuid} {f : Finding} {fs : List Finding}

variable {s t u : Store} {xs ys : List Exchange} {r : Except Error Summary}

theorem answer_findTheme_of_performs {name : String} {r : Except Error (Option Theme)}
    (h : s.Performs [⟨.findTheme name, r⟩] t) :
    (r = .ok none ∧ name ∉ s.themes.map Theme.name) ∨
      ∃ theme, r = .ok (some theme) ∧ Files t (some name) (some theme.id) := by
  obtain ⟨b, provider, before, rfl, after⟩ := h.one
  simp only [Backend.perform] at after ⊢
  cases found : b.store.findTheme? name with
  | none =>
    refine .inl ⟨rfl, fun known => Store.findTheme?_eq_none_iff.mp found ?_⟩
    exact (before.themes.map Theme.name).subset known
  | some theme =>
    have files : Files b.store (some name) (some theme.id) := .some ⟨theme, found, rfl⟩
    exact .inr ⟨theme, rfl, files.mono after.themes⟩

private theorem answer_createTheme_of_performs {name : String} {r : Except Error Theme}
    (h : s.Performs [⟨.createTheme name, r⟩] t) :
    (∃ d, r = .error (.conflict d) ∧ name ∈ t.themes.map Theme.name) ∨
      ∃ theme, r = .ok theme ∧ Files t (some name) (some theme.id) := by
  obtain ⟨b, provider, before, rfl, after⟩ := h.one
  simp only [Backend.perform, Store.createTheme] at after ⊢
  cases found : b.store.findTheme? name with
  | some theme =>
    obtain ⟨mem, rfl⟩ := Store.findTheme?_eq_some found
    simp only [found, Option.isSome_some, if_true] at after
    exact .inl ⟨_, rfl, List.mem_map_of_mem (after.themes.subset mem)⟩
  | none =>
    simp only [found, Option.isSome_none, Bool.false_eq_true, if_false] at after
    have files := files_added ⟨b.supply.theme, name, b.now⟩ found
    exact .inr ⟨_, rfl, files.mono after.themes⟩

private theorem answer_createOpportunity_of_performs {d : OpportunityDraft} {r : Except Error Uuid}
    {name : Option String} (files : Files s name d.themeId)
    (h : s.Performs [⟨.createOpportunity d, r⟩] t) :
    ∃ o ∈ t.opportunities, r = .ok o.id ∧ o = .ofDraft d o.id o.createdAt := by
  obtain ⟨b, provider, before, rfl, after⟩ := h.one
  have accepted : b.store.acceptsTheme d.themeId = true := (files.mono before.themes).accepted
  simp only [Backend.perform, Store.createOpportunity, accepted, if_true] at after ⊢
  refine ⟨_, after.opportunities.subset (List.mem_append_right _ (List.mem_singleton_self _)), ?_⟩
  exact ⟨rfl, rfl⟩

private theorem answer_addEvidence_of_performs {d : EvidenceDraft} {r : Except Error Uuid}
    (stored : (s.meetings.find? d.meetingId).isSome) (h : s.Performs [⟨.addEvidence d, r⟩] t) :
    (r = .error (.opportunityNotFound d.opportunityId) ∧
        d.opportunityId ∉ s.opportunities.map OpportunityRecord.id) ∨
      ((∃ id, r = .ok id) ∧ d.opportunityId ∈ t.opportunities.map OpportunityRecord.id) := by
  obtain ⟨b, provider, before, rfl, after⟩ := h.one
  obtain ⟨m, hm⟩ := Option.isSome_iff_exists.mp (before.hasMeeting stored)
  simp only [Backend.perform, Store.addEvidence] at after ⊢
  cases found : b.store.opportunityRecord? d.opportunityId with
  | none =>
    refine .inl ⟨by simp, fun known => ?_⟩
    have there := (before.opportunities.map OpportunityRecord.id).subset known
    simp [← opportunityRecord?_isSome_iff, found] at there
  | some o =>
    simp only [found, hm, Option.isNone_some, Bool.false_eq_true, if_false] at after
    refine .inr ⟨⟨b.supply.evidence, by simp [hm]⟩, ?_⟩
    have there : d.opportunityId ∈ b.store.opportunities.map OpportunityRecord.id := by
      rw [← opportunityRecord?_isSome_iff, found]
      rfl
    exact (after.opportunities.map OpportunityRecord.id).subset there

private theorem files_of_searchAgain {name : String} {r : Except Error (Option Uuid)}
    (there : name ∈ s.themes.map Theme.name) (performs : s.Performs xs t)
    (h : (searchAgain name).Takes xs (some r)) :
    ∃ id, r = .ok (some id) ∧ Files t (some name) (some id) := by
  rcases Program.takes_call_iff.mp h with ⟨_, ended⟩ | ⟨found, ys, rfl, continued⟩
  · cases ended
  obtain ⟨u, first, rest⟩ := performs.uncons
  rcases answer_findTheme_of_performs first with ⟨_, absent⟩ | ⟨theme, rfl, files⟩
  · exact (absent there).elim
  · obtain ⟨rfl, ended⟩ := Program.takes_done_iff.mp continued
    exact ⟨theme.id, Option.some.inj ended, files.mono rest.leads.themes⟩

private theorem files_of_makeTheme {name : String} {r : Except Error (Option Uuid)}
    (performs : s.Performs xs t) (h : (makeTheme name).Takes xs (some r)) :
    ∃ id, r = .ok (some id) ∧ Files t (some name) (some id) := by
  rcases Program.takes_call_iff.mp h with ⟨_, ended⟩ | ⟨made, ys, rfl, continued⟩
  · cases ended
  obtain ⟨u, first, rest⟩ := performs.uncons
  rcases answer_createTheme_of_performs first with ⟨d, rfl, there⟩ | ⟨theme, rfl, files⟩
  · exact files_of_searchAgain there rest continued
  · obtain ⟨rfl, ended⟩ := Program.takes_done_iff.mp continued
    exact ⟨theme.id, Option.some.inj ended, files.mono rest.leads.themes⟩

private theorem files_of_searchTheme {name : String} {r : Except Error (Option Uuid)}
    (performs : s.Performs xs t) (h : (searchTheme name).Takes xs (some r)) :
    ∃ id, r = .ok (some id) ∧ Files t (some name) (some id) := by
  rcases Program.takes_call_iff.mp h with ⟨_, ended⟩ | ⟨found, ys, rfl, continued⟩
  · cases ended
  obtain ⟨u, first, rest⟩ := performs.uncons
  rcases answer_findTheme_of_performs first with ⟨rfl, _⟩ | ⟨theme, rfl, files⟩
  · exact files_of_makeTheme rest continued
  · obtain ⟨rfl, ended⟩ := Program.takes_done_iff.mp continued
    exact ⟨theme.id, Option.some.inj ended, files.mono rest.leads.themes⟩

theorem files_of_themeOf {theme : Option String} {r : Except Error (Option Uuid)}
    (performs : s.Performs xs t) (h : Attempt.Takes (themeOf theme) xs (some r)) :
    ∃ id, r = .ok id ∧ Files t (theme.bind Theme.normalizeName) id := by
  cases theme with
  | none =>
    obtain ⟨rfl, ended⟩ := Attempt.takes_pure_iff.mp h
    exact ⟨none, Option.some.inj ended, .none⟩
  | some raw =>
    replace h : Program.Takes (ExceptT.run (resolveTheme raw)) xs (some r) := h
    rw [resolveTheme_eq] at h
    rw [Option.bind_some]
    cases normal : Theme.normalizeName raw with
    | none =>
      rw [normal] at h
      obtain ⟨rfl, ended⟩ := Program.takes_done_iff.mp h
      exact ⟨none, Option.some.inj ended, .none⟩
    | some name =>
      rw [normal] at h
      obtain ⟨id, rfl, files⟩ := files_of_searchTheme performs h
      exact ⟨some id, rfl, files⟩

private theorem themesCreated_of_takes_themeOf {theme : Option String}
    {o : Option (Except Error (Option Uuid))} (h : Attempt.Takes (themeOf theme) xs o) :
    themesCreated xs ⊆ (theme.bind Theme.normalizeName).toList := by
  intro name created
  obtain ⟨⟨c, r⟩, hx, hname⟩ := List.mem_filterMap.mp created
  -- What a call that makes a theme names is the normalized name.
  let kind : Call → Prop
    | .createTheme made => theme.bind Theme.normalizeName = some made
    | _ => True
  have calls : Attempt.Calls (themeOf theme) kind :=
    calls_themeOf_of fun name normal => ⟨trivial, normal⟩
  have made : kind c := calls xs o h _ hx
  cases c with
  | createTheme name' =>
    cases r with
    | error e => cases hname
    | ok t =>
      obtain rfl := Option.some.inj hname
      simp [show theme.bind Theme.normalizeName = some name' from made]
  | createMeeting | fetchMeeting | updateStatus | idsByStatus | createOpportunity | roster
  | findTheme | addEvidence | extract => cases hname

/-- What a piece of a merge has left behind: an opportunity for each of its proposals, the evidence
that was due, and no theme but those of its proposals. -/
structure Attests (ps : List Proposal) (due : List EvidenceKey) (xs : List Exchange) (t : Store) :
    Prop where
  opportunities : List.Forall₂
    (fun p id => ∃ o ∈ t.opportunities, o.id = id ∧ Repeats p o ∧ Files t p.themeName? o.themeId)
    ps (opportunitiesCreated xs)
  evidence : keysAdded xs = due
  themes : themesCreated xs ⊆ ps.filterMap Proposal.themeName?

theorem Attests.later {ps : List Proposal} {due : List EvidenceKey} (h : Attests ps due xs t)
    (k : t.Leads u) : Attests ps due xs u where
  opportunities := h.opportunities.imp fun _ _ ⟨o, there, same, repeats, files⟩ =>
    ⟨o, k.opportunities.subset there, same, repeats, files.mono k.themes⟩
  evidence := h.evidence
  themes := h.themes

theorem Attests.append {ps qs : List Proposal} {due rest : List EvidenceKey}
    (h : Attests ps due xs t) (k : Attests qs rest ys t) :
    Attests (ps ++ qs) (due ++ rest) (xs ++ ys) t where
  opportunities := by
    rw [opportunitiesCreated_append]
    exact List.rel_append h.opportunities k.opportunities
  evidence := by rw [keysAdded_append, h.evidence, k.evidence]
  themes := by
    rw [themesCreated_append, List.filterMap_append]
    exact List.append_subset.mpr
      ⟨List.Subset.trans h.themes (List.subset_append_left _ _),
        List.Subset.trans k.themes (List.subset_append_right _ _)⟩

theorem Attests.nothing (t : Store) : Attests [] [] [] t := ⟨.nil, rfl, List.nil_subset _⟩

theorem Attests.length {ps : List Proposal} {due : List EvidenceKey} (h : Attests ps due xs t) :
    (opportunitiesCreated xs).length = ps.length := h.opportunities.length_eq.symm

theorem takes_sequence_iff {α : Type} {first : Attempt α} {second : α → Attempt Summary}
    {tell : α → Summary} {r : Except Error Summary} :
    Attempt.Takes (first >>= fun a => second a >>= fun s => pure (tell a ++ s)) xs (some r) ↔
      (∃ e, first.Takes xs (some (.error e)) ∧ r = .error e) ∨
        ∃ ys zs a r', xs = ys ++ zs ∧ first.Takes ys (some (.ok a)) ∧
          (second a).Takes zs (some r') ∧ r = r'.map (tell a ++ ·) := by
  simp only [Attempt.takes_bind_some_iff (t := first), Attempt.takes_bind_pure_iff,
    exists_and_left]

theorem outcome_attachQuote {opportunity : Uuid} {q : Quote} {r : Except Error Summary}
    (telling : ¬ Text.isBlankText q.text = true) (stored : (s.meetings.find? meeting).isSome)
    (performs : s.Performs xs t)
    (h : Attempt.Takes (attachQuote opportunity meeting q) xs (some r)) :
    (opportunity ∉ s.opportunities.map OpportunityRecord.id ∧
        r = .error (.opportunityNotFound opportunity) ∧ Attests [] [] xs t) ∨
      (opportunity ∈ t.opportunities.map OpportunityRecord.id ∧
        r = .ok .added ∧ Attests [] [(opportunity, meeting, q.words)] xs t) := by
  rw [attachQuote, if_neg telling] at h
  obtain ⟨answer, asked, rfl⟩ := Attempt.takes_bind_pure_iff.mp h
  obtain rfl := Attempt.takes_attempt_some_iff.mp asked
  rcases answer_addEvidence_of_performs stored performs with ⟨rfl, absent⟩ | ⟨⟨id, rfl⟩, there⟩
  · exact .inl ⟨absent, rfl, .nil, rfl, List.nil_subset _⟩
  · refine .inr ⟨there, rfl, .nil, ?_, List.nil_subset _⟩
    exact congrArg (fun w => [(opportunity, meeting, w)])
      (EvidenceDraft.words_of_quote opportunity meeting q)

theorem outcome_attachQuotes {opportunity : Uuid} {qs : List Quote} {r : Except Error Summary}
    (there : Quote.telling qs ≠ [] → opportunity ∈ s.opportunities.map OpportunityRecord.id)
    (stored : (s.meetings.find? meeting).isSome) (performs : s.Performs xs t)
    (h : Attempt.Takes (attachQuotes opportunity meeting qs) xs (some r)) :
    r = .ok (attached qs) ∧ Attests [] (keysFor opportunity meeting qs) xs t := by
  induction qs generalizing s xs r with
  | nil =>
    obtain ⟨rfl, ended⟩ := Attempt.takes_pure_iff.mp h
    exact ⟨Option.some.inj ended, .nothing t⟩
  | cons q qs ih =>
    by_cases blank : Text.isBlankText q.text = true
    · have same : Quote.telling (q :: qs) = Quote.telling qs := by simp [Quote.telling, blank]
      rw [attachQuotes, attachQuote, if_pos blank, pure_bind] at h
      obtain ⟨r', rest, rfl⟩ := Attempt.takes_bind_pure_iff.mp h
      obtain ⟨rfl, attests⟩ := ih (same ▸ there) stored performs rest
      rw [keysFor, same, ← attached_cons_of_blank blank]
      exact ⟨rfl, attests⟩
    · have more : Quote.telling (q :: qs) = q :: Quote.telling qs := by
        simp [Quote.telling, blank]
      have known := there (by simp [more])
      rw [attachQuotes] at h
      rcases takes_sequence_iff.mp h with
        ⟨e, first, rfl⟩ | ⟨ys, zs, a, r', rfl, first, rest, rfl⟩
      · rcases outcome_attachQuote blank stored performs first with ⟨absent, _⟩ | ⟨_, failed, _⟩
        · exact (absent known).elim
        · cases failed
      · obtain ⟨u, performs, performs'⟩ := performs.split
        have kept := (performs.leads.opportunities.map OpportunityRecord.id).subset known
        obtain ⟨rfl, attests'⟩ :=
          ih (fun _ => kept) (performs.leads.hasMeeting stored) performs' rest
        rcases outcome_attachQuote blank stored performs first with
          ⟨absent, _⟩ | ⟨_, added, attests⟩
        · exact (absent known).elim
        · cases added
          rw [keysFor, more, ← attached_cons_of_telling blank]
          exact ⟨rfl, (attests.later performs'.leads).append attests'⟩

private theorem refused_attachQuotes {opportunity : Uuid} {qs : List Quote}
    {r : Except Error Summary} (telling : Quote.telling qs ≠ [])
    (absent : opportunity ∉ t.opportunities.map OpportunityRecord.id)
    (stored : (s.meetings.find? meeting).isSome) (performs : s.Performs xs t)
    (h : Attempt.Takes (attachQuotes opportunity meeting qs) xs (some r)) :
    r = .error (.opportunityNotFound opportunity) ∧ Attests [] [] xs t := by
  induction qs generalizing r with
  | nil => exact (telling rfl).elim
  | cons q qs ih =>
    rw [attachQuotes] at h
    by_cases blank : Text.isBlankText q.text = true
    · rw [attachQuote, if_pos blank, pure_bind] at h
      obtain ⟨r', rest, rfl⟩ := Attempt.takes_bind_pure_iff.mp h
      obtain ⟨rfl, attests⟩ := ih (by simpa [Quote.telling, blank] using telling) rest
      exact ⟨rfl, attests⟩
    · rcases takes_sequence_iff.mp h with ⟨e, first, rfl⟩ | ⟨ys, zs, a, r', rfl, first, rest, rfl⟩
      · rcases outcome_attachQuote blank stored performs first with
          ⟨_, failed, attests⟩ | ⟨there, _⟩
        · cases failed
          exact ⟨rfl, attests⟩
        · exact (absent there).elim
      · obtain ⟨u, performs, performs'⟩ := performs.split
        rcases outcome_attachQuote blank stored performs first with ⟨_, failed, _⟩ | ⟨there, _⟩
        · cases failed
        · have kept := (performs'.leads.opportunities.map OpportunityRecord.id).subset there
          exact (absent kept).elim

theorem outcome_createOpportunity {p : Proposal} {r : Except Error Uuid}
    (performs : s.Performs xs t) (h : Attempt.Takes (createOpportunity p) xs (some r)) :
    ∃ id, r = .ok id ∧ opportunitiesCreated xs = [id] ∧
      id ∈ t.opportunities.map OpportunityRecord.id ∧ Attests [p] [] xs t := by
  rcases Attempt.takes_bind_some_iff.mp h with ⟨e, named, rfl⟩ | ⟨ys, zs, theme, rfl, named, made⟩
  · obtain ⟨id, failed, _⟩ := files_of_themeOf performs named
    cases failed
  · obtain ⟨u, performs, performs'⟩ := performs.split
    obtain ⟨_, found, files⟩ := files_of_themeOf performs named
    cases found
    obtain rfl := Attempt.takes_attempt_some_iff.mp made
    obtain ⟨o, there, rfl, same⟩ := answer_createOpportunity_of_performs files performs'
    obtain ⟨noEvidence, noOpportunity⟩ :=
      writes_nothing_of_isAboutThemes (calls_themeOf _ _ _ named)
    have created (draft : OpportunityDraft) :
        opportunitiesCreated (ys ++ [⟨.createOpportunity draft, .ok o.id⟩]) = [o.id] := by
      rw [opportunitiesCreated_append, noOpportunity]
      rfl
    refine ⟨o.id, rfl, created _, List.mem_map_of_mem there, ?_, ?_, ?_⟩
    · rw [created]
      have repeats : Repeats p o := by
        rw [same]
        exact ⟨rfl, rfl, rfl, rfl⟩
      have filed : Files t p.themeName? o.themeId := by
        rw [same]
        exact files.mono performs'.leads.themes
      exact .cons ⟨o, there, rfl, repeats, filed⟩ .nil
    · rw [keysAdded_eq, evidenceAdded_append, noEvidence]
      rfl
    · have one : [p].filterMap Proposal.themeName? = p.themeName?.toList := by
        cases h : p.themeName? <;> simp [h]
      rw [one, themesCreated_append]
      exact List.append_subset.mpr ⟨themesCreated_of_takes_themeOf named, List.nil_subset _⟩

/-- The opportunities that matches of some findings can refer to between two stores: what is known
is there from the beginning, and what is there in the end is known. -/
structure Settled (known : List Uuid) (fs : List Finding) (s t : Store) : Prop where
  there : ∀ id ∈ known, id ∈ s.opportunities.map OpportunityRecord.id
  only : ∀ id ∈ fs.filterMap Finding.matchedId?, id ∈ t.opportunities.map OpportunityRecord.id →
    id ∈ known

theorem Settled.split (h : Settled known (f :: fs) s u) (before : s.Leads t) (after : t.Leads u) :
    Settled known [f] s t ∧ Settled known fs t u := by
  have all : (f :: fs).filterMap Finding.matchedId? =
      [f].filterMap Finding.matchedId? ++ fs.filterMap Finding.matchedId? :=
    List.filterMap_append (l := [f])
  have only := h.only
  rw [all] at only
  refine ⟨⟨h.there, fun id hid there => ?_⟩, fun id hid => ?_, fun id hid => ?_⟩
  · exact only id (List.mem_append_left _ hid)
      ((after.opportunities.map OpportunityRecord.id).subset there)
  · exact (before.opportunities.map OpportunityRecord.id).subset (h.there id hid)
  · exact only id (List.mem_append_right _ hid)

/-- What becomes of findings: the result that their verdict gives, and what is left of the findings
that can be applied. -/
structure Outcome (known : List Uuid) (meeting : Uuid) (fs : List Finding) (xs : List Exchange)
    (t : Store) (r : Except Error Summary) : Prop where
  result : r = verdict known (opportunitiesCreated xs) fs
  attests : Attests (proposals (applicable known fs))
    (keysDue meeting (opportunitiesCreated xs) (applicable known fs)) xs t

private theorem outcome_proposed {p : Proposal} {r : Except Error Summary}
    (stored : (s.meetings.find? meeting).isSome) (performs : s.Performs xs t)
    (h : Attempt.Takes (applyFinding meeting (.proposed p)) xs (some r)) :
    Outcome known meeting [.proposed p] xs t r := by
  rcases takes_sequence_iff.mp h with ⟨e, made, rfl⟩ | ⟨ys, zs, id, r', rfl, made, rest, rfl⟩
  · obtain ⟨id, failed, _⟩ := outcome_createOpportunity performs made
    cases failed
  · obtain ⟨u, performs, performs'⟩ := performs.split
    obtain ⟨_, ok, created, there, attests⟩ := outcome_createOpportunity performs made
    cases ok
    obtain ⟨rfl, attests'⟩ :=
      outcome_attachQuotes (fun _ => there) (performs.leads.hasMeeting stored) performs' rest
    have all : opportunitiesCreated (ys ++ zs) = [id] := by
      rw [opportunitiesCreated_append, created,
        List.eq_nil_of_length_eq_zero attests'.length]
      rfl
    have applied : applicable known [.proposed p] = [.proposed p] := rfl
    refine ⟨?_, ?_⟩
    · rw [all]
      exact congrArg Except.ok (summaryOf_proposed id p)
    · rw [all, applied]
      simpa [keysDue, proposals, Finding.proposal?] using
        (attests.later performs'.leads).append attests'

private theorem outcome_matched {m : Match} {r : Except Error Summary}
    (settled : Settled known [.matched m] s t) (stored : (s.meetings.find? meeting).isSome)
    (performs : s.Performs xs t)
    (h : Attempt.Takes (applyFinding meeting (.matched m)) xs (some r)) :
    Outcome known meeting [.matched m] xs t r := by
  rcases takes_sequence_iff.mp h with
    ⟨e, referred, rfl⟩ | ⟨ys, zs, id, r', rfl, referred, rest, rfl⟩
  · obtain ⟨rfl, failed⟩ := takes_reference_iff.mp referred
    have refused : refusal? known (.matched m) = some e := by
      simp [refusal?, ← Option.some.inj failed]
    refine ⟨(verdict_cons_of_refused refused).symm, ?_⟩
    rw [applicable_cons_of_refused refused]
    exact .nothing t
  · obtain ⟨rfl, found⟩ := takes_reference_iff.mp referred
    replace found : reference m = .ok id := (Option.some.inj found).symm
    have hid : m.id? = some id := reference_eq_ok_iff.mp found
    rw [List.nil_append] at performs ⊢
    -- A match that tells nothing makes no call, so it does not matter then whether it is known.
    by_cases refers : Quote.telling m.quotes ≠ [] ∧ id ∉ known
    · have refused : refusal? known (.matched m) = some (.opportunityNotFound id) := by
        simp only [refusal?, found, if_pos refers]
      have absent : id ∉ t.opportunities.map OpportunityRecord.id := fun there =>
        refers.2 (settled.only id (by simp [Finding.matchedId?, hid]) there)
      obtain ⟨rfl, attests⟩ := refused_attachQuotes refers.1 absent stored performs rest
      refine ⟨(verdict_cons_of_refused refused).symm, ?_⟩
      rw [applicable_cons_of_refused refused]
      exact attests
    · have accepted : refusal? known (.matched m) = none := by
        simp only [refusal?, found, if_neg refers]
      have there : Quote.telling m.quotes ≠ [] → id ∈ s.opportunities.map OpportunityRecord.id :=
        fun telling => settled.there id (not_not.mp fun unknown => refers ⟨telling, unknown⟩)
      obtain ⟨rfl, attests⟩ := outcome_attachQuotes there stored performs rest
      have none : opportunitiesCreated zs = [] := List.eq_nil_of_length_eq_zero attests.length
      refine ⟨?_, ?_⟩
      · rw [none, verdict, List.findSome?_singleton, accepted]
        exact congrArg Except.ok (summaryOf_matched hid)
      · have due : keysDue meeting [] [.matched m] = keysFor id meeting m.quotes := by
          simp [keysDue, hid]
        rw [none, applicable_cons accepted, applicable, List.takeWhile_nil, due]
        exact attests

theorem outcome_applyFinding {r : Except Error Summary} (settled : Settled known [f] s t)
    (stored : (s.meetings.find? meeting).isSome) (performs : s.Performs xs t)
    (h : Attempt.Takes (applyFinding meeting f) xs (some r)) :
    Outcome known meeting [f] xs t r := by
  cases f with
  | proposed p => exact outcome_proposed stored performs h
  | matched m => exact outcome_matched settled stored performs h

theorem Outcome.ended {e : Error} (h : Outcome known meeting [f] xs t (.error e))
    (fs : List Finding) : Outcome known meeting (f :: fs) xs t (.error e) where
  result := (verdict_cons_of_refused (refusal?_of_verdict_error h.result.symm)).symm
  attests := by
    have attests := h.attests
    rw [applicable_cons_of_refused (refusal?_of_verdict_error h.result.symm)] at attests ⊢
    exact attests

theorem Outcome.cons {a : Summary} (h : Outcome known meeting [f] xs t (.ok a))
    (k : Outcome known meeting fs ys t r) :
    Outcome known meeting (f :: fs) (xs ++ ys) t (r.map (a ++ ·)) := by
  obtain ⟨accepted, rfl⟩ := refusal?_of_verdict_ok h.result.symm
  have attests := h.attests
  rw [applicable_cons accepted, applicable, List.takeWhile_nil] at attests
  refine ⟨?_, ?_⟩
  · rw [k.result, opportunitiesCreated_append]
    exact verdict_cons accepted _ _ fs
  · rw [applicable_cons accepted, opportunitiesCreated_append, ← keysDue_cons attests.length,
      proposals_cons]
    exact attests.append k.attests

/-- Whoever else is at work, a merge comes to what its findings and the known opportunities say. -/
theorem outcome_apply (settled : Settled known fs s t)
    (stored : (s.meetings.find? meeting).isSome) (performs : s.Performs xs t)
    (h : Attempt.Takes (apply meeting fs) xs (some r)) : Outcome known meeting fs xs t r := by
  induction fs generalizing s xs r with
  | nil =>
    obtain ⟨rfl, ended⟩ := Attempt.takes_pure_iff.mp h
    exact ⟨Option.some.inj ended, .nothing t⟩
  | cons f fs ih =>
    rcases takes_sequence_iff.mp h with ⟨e, failed, rfl⟩ | ⟨ys, zs, a, r', rfl, done, rest, rfl⟩
    · have settled := (settled.split performs.leads .refl).1
      exact (outcome_applyFinding settled stored performs failed).ended fs
    · obtain ⟨u, performs, performs'⟩ := performs.split
      obtain ⟨settled, settled'⟩ := settled.split performs.leads performs'.leads
      have first := outcome_applyFinding settled stored performs done
      have others := ih settled' (performs.leads.hasMeeting stored) performs' rest
      exact Outcome.cons ⟨first.result, first.attests.later performs'.leads⟩ others

end Merge

end MeetingInsights
