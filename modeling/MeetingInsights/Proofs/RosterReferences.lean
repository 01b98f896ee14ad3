import MeetingInsights.Prompt
import MeetingInsights.Proofs.IdentifierTexts
import MeetingInsights.Proofs.LaterStores
import MeetingInsights.Proofs.MergeDecisions

/-! # References to roster entries

A provider that repeats the identifier of a roster line refers to the opportunity of that line. The
opportunity is not lost, so a merge does not fail at such a reference for want of it, however much
later and beside whomever it runs.
-/

namespace MeetingInsights

/-- The text of a roster line before its first space. -/
def Prompt.lineId (line : String) : String :=
  String.ofList (line.toList.takeWhile fun c => c ≠ ' ')

theorem Prompt.lineId_append (u : Uuid) (rest : String) :
    Prompt.lineId (u.toText ++ (" | " ++ rest)) = u.toText := by
  have unbroken : ∀ c ∈ u.toText.toList, decide (c ≠ ' ') = true := by
    intro c hc
    refine decide_eq_true fun space => ?_
    have blank := Uuid.isBlank_of_mem_toText hc
    rw [space] at blank
    exact absurd blank (by decide)
  have mark : (" | " : String).toList = [' ', '|', ' '] := rfl
  simp only [Prompt.lineId, String.toList_append, mark]
  rw [List.takeWhile_append_of_pos unbroken]
  simp

theorem Prompt.lineId_rosterLine (r : RosterEntry) :
    Prompt.lineId (Prompt.rosterLine r) = r.opportunityId.toText := by
  simp only [Prompt.rosterLine, String.append_assoc, Prompt.lineId_append]

/-- A match that refers to the opportunity of a roster entry as its line shows it. -/
def Match.Echoes (m : Match) (r : RosterEntry) : Prop :=
  m.reference = some (Prompt.lineId (Prompt.rosterLine r))

instance (m : Match) (r : RosterEntry) : Decidable (m.Echoes r) :=
  inferInstanceAs (Decidable (m.reference = some (Prompt.lineId (Prompt.rosterLine r))))

theorem Match.Echoes.reference_eq {m : Match} {r : RosterEntry} (h : m.Echoes r) :
    Merge.reference m = .ok r.opportunityId := by
  rw [Match.Echoes, Prompt.lineId_rosterLine] at h
  rw [Merge.reference_eq_ok_iff, Match.id?, h, Option.bind_some, Uuid.parse?_trim_toText]

namespace Merge

variable {meeting : Uuid} {fs : List Finding} {xs : List Exchange} {e : Error}

/-- A merge has failed at a finding: it has applied those before it, and then this one has failed. -/
def FailsAt (meeting : Uuid) (before : List Finding) (f : Finding) (xs : List Exchange)
    (e : Error) : Prop :=
  ∃ ys zs s, xs = ys ++ zs ∧ (apply meeting before).Takes ys (some (.ok s)) ∧
    (applyFinding meeting f).Takes zs (some (.error e))

theorem FailsAt.cons {f g : Finding} {before : List Finding} {ys : List Exchange} {s : Summary}
    (first : (applyFinding meeting g).Takes ys (some (.ok s))) (h : FailsAt meeting before f xs e) :
    FailsAt meeting (g :: before) f (ys ++ xs) e := by
  obtain ⟨us, vs, t, rfl, applied, failed⟩ := h
  refine ⟨ys ++ us, vs, s ++ t, (List.append_assoc _ _ _).symm, ?_, failed⟩
  refine Attempt.takes_bind_iff.mpr (.inr (.inr ⟨ys, us, s, rfl, first, ?_⟩))
  exact Attempt.takes_bind_iff.mpr (.inr (.inr ⟨us, [], t, (List.append_nil _).symm, applied,
    Attempt.takes_pure_iff.mpr ⟨rfl, rfl⟩⟩))

private theorem failsAt_of_takes (h : (apply meeting fs).Takes xs (some (.error e))) :
    ∃ before f after, fs = before ++ f :: after ∧ FailsAt meeting before f xs e := by
  induction fs generalizing xs with
  | nil => cases (Attempt.takes_pure_iff.mp h).2
  | cons f fs ih =>
    rcases Attempt.takes_bind_error_iff.mp h with failed | ⟨ys, zs, s, rfl, first, rest⟩
    · exact ⟨[], f, fs, rfl, [], xs, .empty, rfl, Attempt.takes_pure_iff.mpr ⟨rfl, rfl⟩, failed⟩
    · obtain ⟨before, g, after, rfl, fails⟩ := ih (Attempt.takes_bind_pure_error_iff.mp rest)
      exact ⟨f :: before, g, after, rfl, fails.cons first⟩

variable {s : Store} {opportunity : Uuid}

/-- Evidence for an opportunity that is stored is refused only for want of the meeting. -/
theorem error_of_addEvidence {b : Backend} {provider : Provider} {draft : EvidenceDraft}
    (stored : (b.store.opportunityRecord? draft.opportunityId).isSome)
    (refused : (b.perform provider (.addEvidence draft)).1 = .error e) :
    e = .meetingNotFound draft.meetingId := by
  obtain ⟨o, ho⟩ := Option.isSome_iff_exists.mp stored
  simp only [Backend.perform, Store.addEvidence, ho] at refused
  cases hm : b.store.meetings.find? draft.meetingId with
  | none =>
    rw [hm] at refused
    cases refused
    rfl
  | some m =>
    rw [hm] at refused
    cases refused

section Stored

variable (stored : (s.opportunityRecord? opportunity).isSome)
include stored

private theorem isSome_of_leads {t : Store} (later : s.Leads t) :
    (t.opportunityRecord? opportunity).isSome := by
  rw [opportunityRecord?_isSome_iff] at stored ⊢
  exact (later.opportunities.map OpportunityRecord.id).subset stored

private theorem error_of_attachQuote {q : Quote}
    (h : (attachQuote opportunity meeting q).Takes xs (some (.error e)))
    (answered : s.AnsweredAfter xs) : e = .meetingNotFound meeting := by
  by_cases hq : Text.isBlankText q.text = true
  · rw [attachQuote, if_pos hq] at h
    cases (Attempt.takes_pure_iff.mp h).2
  · rw [attachQuote, if_neg hq] at h
    obtain rfl := Attempt.takes_attempt_some_iff.mp (Attempt.takes_bind_pure_error_iff.mp h)
    obtain ⟨b, provider, later, answer⟩ := answered _ (List.mem_singleton_self _)
    exact error_of_addEvidence (isSome_of_leads stored later) answer.symm

private theorem error_of_attachQuotes {qs : List Quote}
    (h : (attachQuotes opportunity meeting qs).Takes xs (some (.error e)))
    (answered : s.AnsweredAfter xs) : e = .meetingNotFound meeting := by
  induction qs generalizing xs with
  | nil => cases (Attempt.takes_pure_iff.mp h).2
  | cons q qs ih =>
    rcases Attempt.takes_bind_error_iff.mp h with failed | ⟨ys, zs, t, rfl, _, rest⟩
    · exact error_of_attachQuote stored failed answered
    · exact ih (Attempt.takes_bind_pure_error_iff.mp rest) (Store.answeredAfter_append.mp answered).2

end Stored

private theorem listed_isSome {r : RosterEntry} (listed : r ∈ s.roster) :
    (s.opportunityRecord? r.opportunityId).isSome := by
  rw [opportunityRecord?_isSome_iff, ← Store.ids_roster]
  exact List.mem_map_of_mem listed

/-- A match that echoes an entry of an earlier roster fails only for want of the meeting. -/
theorem error_of_echo {r : RosterEntry} (listed : r ∈ s.roster) {m : Match} (echo : m.Echoes r)
    (h : (applyFinding meeting (.matched m)).Takes xs (some (.error e)))
    (answered : s.AnsweredAfter xs) : e = .meetingNotFound meeting := by
  rcases Attempt.takes_bind_error_iff.mp h with failed | ⟨ys, zs, id, rfl, referred, rest⟩
  · have refused := (takes_reference_iff.mp failed).2
    rw [echo.reference_eq] at refused
    cases refused
  · have same := (takes_reference_iff.mp referred).2
    rw [echo.reference_eq] at same
    cases same
    exact error_of_attachQuotes (listed_isSome listed) (Attempt.takes_bind_pure_error_iff.mp rest)
      (Store.answeredAfter_append.mp answered).2

/-- Whatever calls have been made since a roster was listed, and whatever programs run beside a
merge with whatever faults of their own, an echo of an entry is read as its opportunity, and of all
failures at one of its findings the merge has at the echo only that its meeting is missing. -/
theorem echoes_stay_usable {α : Type} {s : Store} {r : RosterEntry} (listed : r ∈ s.roster)
    {m : Match} (echo : m.Echoes r) {w : Interleaving α} (later : s.Leads w.backend.store)
    {i : Nat} {meeting : Uuid} {fs : List Finding} {past : List Exchange}
    {next : Except Error Summary → Program α}
    (stands : w.threads[i]? = some ⟨past, ExceptT.run (apply meeting fs) >>= next⟩)
    {turns : List (Nat × Conditions)} (calm : ∀ u ∈ turns, u.1 = i → u.2.faults = [])
    (provider : Provider) :
    reference m = .ok r.opportunityId ∧
      ∀ t xs ys e, (w.run provider turns).threads[i]? = some t → t.past = past ++ (xs ++ ys) →
        (apply meeting fs).Takes xs (some (.error e)) →
          (∃ before f after, fs = before ++ f :: after ∧ FailsAt meeting before f xs e) ∧
            ∀ before, FailsAt meeting before (.matched m) xs e → e = .meetingNotFound meeting := by
  refine ⟨echo.reference_eq, fun t xs ys e ht hpast takes => ⟨failsAt_of_takes takes, ?_⟩⟩
  obtain ⟨zs, rest, ht', _, answered⟩ :=
    Interleaving.answeredAfter_run provider later stands calm
  obtain rfl := Option.some.inj (ht.symm.trans ht')
  obtain rfl : zs = xs ++ ys := List.append_cancel_left hpast
  rintro before ⟨us, vs, u, rfl, _, failed⟩
  exact error_of_echo listed echo failed
    (Store.answeredAfter_append.mp (Store.answeredAfter_append.mp answered).1).2

def echoed : Match where
  reference := some (Prompt.lineId (Uuid.toText default ++ " | Invoices are wrong | billing"))
  quotes := [⟨"It happened again", none⟩]

/-- After an echo there is a reference to nothing, at which the merge fails. -/
def echoedOnce : List Finding := [.matched echoed, .matched ⟨some "nobody", []⟩]

theorem echo_usable_beside_heard :
    reference echoed = .ok default ∧
      ∃ before f xs, f ≠ .matched echoed ∧
        FailsAt default before f xs (malformedReference "nobody") := by
  let calm : Conditions := ⟨[], ⟨default, ⟨1⟩, ⟨1⟩, default⟩, default⟩
  let programs := [ExceptT.run (apply default echoedOnce) >>= .done, ExceptT.run (apply default heard)]
  let w := Interleaving.launched stocked programs
  let turns := [(1, calm), (1, calm), (0, calm), (1, calm)]
  let provider : Provider := fun _ _ => .ok []
  have listed : (⟨default, "Invoices are wrong", some "billing"⟩ : RosterEntry) ∈
      stocked.store.roster := by
    decide +kernel
  have echo : echoed.Echoes ⟨default, "Invoices are wrong", some "billing"⟩ := by decide +kernel
  have peaceful : ∀ u ∈ turns, u.1 = 0 → u.2.faults = [] := by simp [turns, calm]
  obtain ⟨usable, fails⟩ :=
    echoes_stay_usable listed echo (w := w) (i := 0) .refl rfl peaceful provider
  obtain ⟨xs, rest, stands, leaves, _⟩ :=
    Interleaving.answeredAfter_run provider (w := w) .refl rfl peaceful
  have result : (w.run provider turns).result? 0 = some (.error (malformedReference "nobody")) := by
    decide +kernel
  obtain ⟨_, same, ended⟩ := Interleaving.result?_eq_some_iff.mp result
  obtain rfl := Option.some.inj (stands.symm.trans same)
  have takes : (apply default echoedOnce).Takes xs (some (.error (malformedReference "nobody"))) :=
    ⟨rest, Program.bind_done (ExceptT.run (apply default echoedOnce)) ▸ leaves, by
      rw [show rest = _ from ended, Program.result?]⟩
  obtain ⟨⟨before, f, _, _, failed⟩, only⟩ :=
    fails _ xs [] _ stands (by rw [List.append_nil]) takes
  refine ⟨usable, before, f, xs, ?_, failed⟩
  rintro rfl
  cases only before failed

end Merge

end MeetingInsights
