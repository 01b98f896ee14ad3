import MeetingInsights.Merge
import MeetingInsights.Proofs.Exchanges

/-! # What a merge exchanges

Whatever the answers are, a merge adds the quotes that are not blank as evidence, one after another,
and its summary tells what it has created and added.
-/

namespace MeetingInsights

def Exchange.evidence? : Exchange → Option EvidenceDraft
  | ⟨.addEvidence draft, .ok _⟩ => some draft
  | _ => none

def Exchange.opportunity? : Exchange → Option Uuid
  | ⟨.createOpportunity _, .ok id⟩ => some id
  | _ => none

/-- The evidence that exchanges have added, in order. -/
def evidenceAdded (xs : List Exchange) : List EvidenceDraft := xs.filterMap Exchange.evidence?

/-- The opportunities that exchanges have created, in order. -/
def opportunitiesCreated (xs : List Exchange) : List Uuid := xs.filterMap Exchange.opportunity?

@[simp] theorem evidenceAdded_nil : evidenceAdded [] = [] := rfl

@[simp] theorem evidenceAdded_append (xs ys : List Exchange) :
    evidenceAdded (xs ++ ys) = evidenceAdded xs ++ evidenceAdded ys := List.filterMap_append

@[simp] theorem opportunitiesCreated_nil : opportunitiesCreated [] = [] := rfl

@[simp] theorem opportunitiesCreated_append (xs ys : List Exchange) :
    opportunitiesCreated (xs ++ ys) = opportunitiesCreated xs ++ opportunitiesCreated ys :=
  List.filterMap_append

@[simp] theorem evidenceAdded_singleton (x : Exchange) :
    evidenceAdded [x] = x.evidence?.toList := by
  cases h : x.evidence? <;> simp [evidenceAdded, h]

@[simp] theorem opportunitiesCreated_singleton (x : Exchange) :
    opportunitiesCreated [x] = x.opportunity?.toList := by
  cases h : x.opportunity? <;> simp [opportunitiesCreated, h]

theorem Exchange.evidence?_eq_some {x : Exchange} {draft : EvidenceDraft}
    (h : x.evidence? = some draft) : x.call = .addEvidence draft := by
  obtain ⟨c, r⟩ := x
  cases c <;> cases r <;> simp_all [Exchange.evidence?]

/-- The words of a quote with the context that is kept of it. They are compared with those of
evidence, which has an identifier and a time as well. -/
def Quote.words (q : Quote) : String × Option String := (q.text, nonEmptyContext q.context)

def EvidenceDraft.words (e : EvidenceDraft) : String × Option String :=
  (e.quote, nonEmptyContext e.context)

def Evidence.words (e : Evidence) : String × Option String := (e.quote, e.context)

private theorem nonEmptyContext_idem (context : Option String) :
    nonEmptyContext (nonEmptyContext context) = nonEmptyContext context := by
  simp [nonEmptyContext]

theorem nonEmptyContext_ne (context : Option String) : nonEmptyContext context ≠ some "" := by
  intro h
  have kept := (Option.filter_eq_some_iff.mp h).2
  simp at kept

theorem EvidenceDraft.words_of_quote (opportunity meeting : Uuid) (q : Quote) :
    EvidenceDraft.words ⟨opportunity, meeting, q.text, nonEmptyContext q.context⟩ = q.words :=
  congrArg (Prod.mk q.text) (nonEmptyContext_idem q.context)

def Quote.telling (qs : List Quote) : List Quote := qs.filter fun q => !Text.isBlankText q.text

@[simp] theorem Quote.telling_nil : Quote.telling [] = [] := rfl

@[simp] theorem Quote.telling_append (qs rs : List Quote) :
    Quote.telling (qs ++ rs) = Quote.telling qs ++ Quote.telling rs := List.filter_append _ _

def Call.IsAboutThemes : Call → Prop
  | .findTheme _ | .createTheme _ => True
  | _ => False

/-- A call that a merge for a meeting makes. -/
def Call.IsMergeOf (meeting : Uuid) : Call → Prop
  | .findTheme _ | .createTheme _ | .createOpportunity _ => True
  | .addEvidence draft => draft.meetingId = meeting
  | _ => False

theorem Call.IsAboutThemes.isMergeOf {c : Call} (h : c.IsAboutThemes) (meeting : Uuid) :
    c.IsMergeOf meeting := by
  cases c <;> first | exact h.elim | trivial

namespace Merge

private theorem calls_themeUnder {name : String} {kind : Call → Prop}
    (find : kind (.findTheme name)) (create : kind (.createTheme name)) :
    Attempt.Calls (themeUnder name) kind := by
  unfold themeUnder
  have search : Attempt.Calls (Call.findTheme name).attempt kind := Attempt.calls_attempt find
  refine search.bind fun found => ?_
  cases found with
  | some t => exact Attempt.calls_pure _ _
  | none =>
    have make : Attempt.Calls (ExceptT.lift (Program.ask (.createTheme name))) kind :=
      Attempt.calls_lift_ask create
    refine make.bind fun made => ?_
    split
    · exact Attempt.calls_pure _ _
    · refine search.bind fun again => ?_
      cases again with
      | some t => exact Attempt.calls_pure _ _
      | none => exact Attempt.calls_throw _ _
    · exact Attempt.calls_throw _ _

theorem calls_themeOf_of {theme : Option String} {kind : Call → Prop}
    (h : ∀ name, theme.bind Theme.normalizeName = some name →
      kind (.findTheme name) ∧ kind (.createTheme name)) :
    Attempt.Calls (themeOf theme) kind := by
  cases theme with
  | none => exact Attempt.calls_pure _ _
  | some raw =>
    simp only [themeOf, resolveTheme]
    split
    · exact Attempt.calls_pure _ _
    · rename_i name normal
      obtain ⟨find, create⟩ := h name normal
      exact (calls_themeUnder find create).bind fun id => Attempt.calls_pure _ _

theorem calls_themeOf (theme : Option String) :
    Attempt.Calls (themeOf theme) Call.IsAboutThemes :=
  calls_themeOf_of fun _ _ => ⟨trivial, trivial⟩

/-- The exchanges of a merge that works through some quotes: they add the telling ones among them in
order, and once the merge has succeeded, all of them. The summary tells of nothing else. -/
structure Records (meeting : Uuid) (quotes : List Quote) (xs : List Exchange)
    (o : Option (Except Error Summary)) : Prop where
  calls : ∀ x ∈ xs, x.call.IsMergeOf meeting
  begun : (evidenceAdded xs).map EvidenceDraft.words <+: (Quote.telling quotes).map Quote.words
  whole : ∀ s, o = some (.ok s) →
    (evidenceAdded xs).map EvidenceDraft.words = (Quote.telling quotes).map Quote.words
  added : ∀ s, o = some (.ok s) → s.evidenceAdded = (evidenceAdded xs).length
  created : ∀ s, o = some (.ok s) → s.created = opportunitiesCreated xs

theorem writes_nothing_of_isAboutThemes {xs : List Exchange}
    (h : ∀ x ∈ xs, x.call.IsAboutThemes) :
    evidenceAdded xs = [] ∧ opportunitiesCreated xs = [] := by
  constructor <;>
  · refine filterMap_eq_nil_of_calls (fun c r hc => ?_) h
    cases c <;> first | rfl | exact hc.elim

namespace Records

variable {meeting : Uuid} {quotes more : List Quote} {xs ys : List Exchange}
  {o : Option (Except Error Summary)}

theorem unsuccessful (calls : ∀ x ∈ xs, x.call.IsMergeOf meeting) (nothing : evidenceAdded xs = [])
    (ho : ∀ s, o ≠ some (.ok s)) : Records meeting quotes xs o where
  calls := calls
  begun := by
    rw [nothing]
    exact List.nil_prefix
  whole s hs := (ho s hs).elim
  added s hs := (ho s hs).elim
  created s hs := (ho s hs).elim

theorem extend (h : Records meeting quotes xs o) (ho : ∀ s, o ≠ some (.ok s)) (more : List Quote) :
    Records meeting (quotes ++ more) xs o where
  calls := h.calls
  begun := by
    rw [Quote.telling_append, List.map_append]
    exact h.begun.trans (List.prefix_append _ _)
  whole s hs := (ho s hs).elim
  added s hs := (ho s hs).elim
  created s hs := (ho s hs).elim

theorem append {a : Summary} (h : Records meeting quotes xs (some (.ok a)))
    (k : Records meeting more ys o) :
    Records meeting (quotes ++ more) (xs ++ ys) (o.map (Except.map (a ++ ·))) where
  calls x hx := by
    rcases List.mem_append.mp hx with hx | hx
    · exact h.calls x hx
    · exact k.calls x hx
  begun := by
    rw [evidenceAdded_append, List.map_append, Quote.telling_append, List.map_append,
      h.whole a rfl, List.prefix_append_right_inj]
    exact k.begun
  whole s hs := by
    match o, hs with
    | some (.ok b), _ =>
      rw [evidenceAdded_append, List.map_append, Quote.telling_append, List.map_append,
        h.whole a rfl, k.whole b rfl]
  added s hs := by
    match o, hs with
    | some (.ok b), rfl =>
      change a.evidenceAdded + b.evidenceAdded = _
      rw [h.added a rfl, k.added b rfl, evidenceAdded_append, List.length_append]
  created s hs := by
    match o, hs with
    | some (.ok b), rfl =>
      change a.created ++ b.created = _
      rw [h.created a rfl, k.created b rfl, opportunitiesCreated_append]

end Records

/-- Two pieces of work, one after the other. -/
theorem records_sequence {α : Type} {meeting : Uuid} {quotes more : List Quote} {t : Attempt α}
    {u : α → Attempt Summary} {tell : α → Summary}
    (ht : ∀ xs o, t.Takes xs o → Records meeting quotes xs (o.map (Except.map tell)))
    (hu : ∀ a xs o, (u a).Takes xs o → Records meeting more xs o) {xs : List Exchange}
    {o : Option (Except Error Summary)}
    (h : Attempt.Takes (t >>= fun a => u a >>= fun s => pure (tell a ++ s)) xs o) :
    Records meeting (quotes ++ more) xs o := by
  -- The work of `t` is whole as soon as `u` begins, so `append` also serves where `u` breaks off.
  rcases Attempt.takes_bind_iff.mp h with ⟨hxs, rfl⟩ | ⟨e, hxs, rfl⟩ | ⟨ys, zs, a, rfl, hys, hzs⟩
  · exact (ht _ _ hxs).extend (by simp) more
  · exact (ht _ _ hxs).extend (by simp [Except.map]) more
  · have first := ht _ _ hys
    rcases Attempt.takes_bind_iff.mp hzs with ⟨hvs, rfl⟩ | ⟨e, hvs, rfl⟩ |
      ⟨vs, ws, s, rfl, hvs, hws⟩
    · exact first.append (hu a _ _ hvs)
    · exact first.append (hu a _ _ hvs)
    · obtain ⟨rfl, rfl⟩ := Attempt.takes_pure_iff.mp hws
      rw [List.append_nil]
      exact first.append (hu a _ _ hvs)

private theorem records_attachQuote {opportunity meeting : Uuid} {q : Quote} {xs : List Exchange}
    {o : Option (Except Error Summary)}
    (h : Attempt.Takes (attachQuote opportunity meeting q) xs o) : Records meeting [q] xs o := by
  by_cases hq : Text.isBlankText q.text = true
  · rw [attachQuote, if_pos hq] at h
    obtain ⟨rfl, rfl⟩ := Attempt.takes_pure_iff.mp h
    constructor <;> simp [Quote.telling, hq, Summary.skipped, Summary.empty]
  · rw [attachQuote, if_neg hq] at h
    have ht : Quote.telling [q] = [q] := by simp [Quote.telling, hq]
    rcases Attempt.takes_bind_iff.mp h with ⟨hxs, rfl⟩ | ⟨e, hxs, rfl⟩ |
      ⟨ys, zs, id, rfl, hys, hzs⟩
    · obtain rfl := Attempt.takes_attempt_none_iff.mp hxs
      exact .unsuccessful (by simp) rfl (by simp)
    · obtain rfl := Attempt.takes_attempt_some_iff.mp hxs
      exact .unsuccessful (by simp [Call.IsMergeOf]) rfl (by simp)
    · obtain rfl := Attempt.takes_attempt_some_iff.mp hys
      obtain ⟨rfl, rfl⟩ := Attempt.takes_pure_iff.mp hzs
      have words : (evidenceAdded [(⟨.addEvidence ⟨opportunity, meeting, q.text,
          nonEmptyContext q.context⟩, .ok id⟩ : Exchange)]).map EvidenceDraft.words = [q.words] :=
        congrArg (fun w => [w]) (EvidenceDraft.words_of_quote opportunity meeting q)
      refine ⟨by simp [Call.IsMergeOf], ?_, ?_, ?_, ?_⟩
      · rw [ht, List.append_nil, words]
        exact List.prefix_rfl
      · intro s _
        rw [ht, List.append_nil, words]
        rfl
      · rintro s ⟨⟩
        rfl
      · rintro s ⟨⟩
        rfl

theorem records_attachQuotes {opportunity meeting : Uuid} {qs : List Quote} {xs : List Exchange}
    {o : Option (Except Error Summary)}
    (h : Attempt.Takes (attachQuotes opportunity meeting qs) xs o) : Records meeting qs xs o := by
  induction qs generalizing xs o with
  | nil =>
    obtain ⟨rfl, rfl⟩ := Attempt.takes_pure_iff.mp h
    constructor <;> simp [Summary.empty]
  | cons q qs ih =>
    have first : ∀ xs o, (attachQuote opportunity meeting q).Takes xs o →
        Records meeting [q] xs (o.map (Except.map id)) := by
      intro xs o h
      rw [Except.map_id, Option.map_id, id]
      exact records_attachQuote h
    exact records_sequence first (fun _ _ _ h => ih h) h

private theorem records_createOpportunity {meeting : Uuid} {p : Proposal} {xs : List Exchange}
    {o : Option (Except Error Uuid)} (h : Attempt.Takes (createOpportunity p) xs o) :
    Records meeting [] xs (o.map (Except.map Summary.ofCreated)) := by
  rcases Attempt.takes_bind_iff.mp h with ⟨hxs, rfl⟩ | ⟨e, hxs, rfl⟩ |
    ⟨ys, zs, theme, rfl, hys, hzs⟩
  · have hx := calls_themeOf _ _ _ hxs
    exact .unsuccessful (fun x hxs => (hx x hxs).isMergeOf meeting)
      (writes_nothing_of_isAboutThemes hx).1 (by simp)
  · have hx := calls_themeOf _ _ _ hxs
    exact .unsuccessful (fun x hxs => (hx x hxs).isMergeOf meeting)
      (writes_nothing_of_isAboutThemes hx).1 (by simp [Except.map])
  · have hx := calls_themeOf _ _ _ hys
    obtain ⟨he, hc⟩ := writes_nothing_of_isAboutThemes hx
    rcases Attempt.takes_attempt_iff.mp hzs with ⟨rfl, rfl⟩ | ⟨r, rfl, rfl⟩
    · rw [List.append_nil]
      exact .unsuccessful (fun x hxs => (hx x hxs).isMergeOf meeting) he (by simp)
    · have calls : ∀ x ∈ ys ++ [⟨_, r⟩], x.call.IsMergeOf meeting := by
        intro x hxs
        rcases List.mem_append.mp hxs with hxs | hxs
        · exact (hx x hxs).isMergeOf meeting
        · cases List.mem_singleton.mp hxs
          trivial
      cases r with
      | error e =>
        exact .unsuccessful calls (by rw [evidenceAdded_append, he]; rfl) (by simp [Except.map])
      | ok id =>
        have nothing : evidenceAdded (ys ++ [⟨.createOpportunity _, .ok id⟩]) = [] := by
          rw [evidenceAdded_append, he]
          rfl
        refine ⟨calls, ?_, ?_, ?_, ?_⟩
        · rw [nothing]
          exact List.nil_prefix
        · intro s _
          rw [nothing]
          rfl
        · rintro s ⟨⟩
          rw [nothing]
          rfl
        · rintro s ⟨⟩
          rw [opportunitiesCreated_append, hc]
          rfl

theorem takes_reference_iff {m : Match} {xs : List Exchange} {o : Option (Except Error Uuid)} :
    Attempt.Takes (reference m : Except Error Uuid) xs o ↔ xs = [] ∧ o = some (reference m) :=
  Program.takes_done_iff

private theorem records_applyFinding {meeting : Uuid} {f : Finding} {xs : List Exchange}
    {o : Option (Except Error Summary)} (h : Attempt.Takes (applyFinding meeting f) xs o) :
    Records meeting f.quotes xs o := by
  cases f with
  | proposed p =>
    have made : ∀ xs o, (createOpportunity p).Takes xs o →
        Records meeting [] xs (o.map (Except.map Summary.ofCreated)) :=
      fun _ _ h => records_createOpportunity h
    exact records_sequence made (fun _ _ _ h => records_attachQuotes h) h
  | matched m =>
    have referred : ∀ xs o, Attempt.Takes (reference m : Except Error Uuid) xs o →
        Records meeting [] xs (o.map (Except.map Summary.ofMatched)) := by
      intro xs o h
      obtain ⟨rfl, rfl⟩ := takes_reference_iff.mp h
      constructor <;> cases reference m <;> simp [Except.map, Summary.ofMatched, Summary.empty]
    exact records_sequence referred (fun _ _ _ h => records_attachQuotes h) h

/-- The exchanges of a merge record its findings. -/
theorem records_apply {meeting : Uuid} {findings : List Finding} {xs : List Exchange}
    {o : Option (Except Error Summary)} (h : Attempt.Takes (apply meeting findings) xs o) :
    Records meeting (findings.flatMap Finding.quotes) xs o := by
  induction findings generalizing xs o with
  | nil =>
    obtain ⟨rfl, rfl⟩ := Attempt.takes_pure_iff.mp h
    constructor <;> simp [Summary.empty]
  | cons f fs ih =>
    rw [List.flatMap_cons]
    have first : ∀ xs o, (applyFinding meeting f).Takes xs o →
        Records meeting f.quotes xs (o.map (Except.map id)) := by
      intro xs o h
      rw [Except.map_id, Option.map_id, id]
      exact records_applyFinding h
    exact records_sequence first (fun _ _ _ h => ih h) h

end Merge

end MeetingInsights
