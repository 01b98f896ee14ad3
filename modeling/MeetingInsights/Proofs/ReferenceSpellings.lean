import MeetingInsights.Proofs.IdentifierSpellings
import MeetingInsights.Proofs.MergeDecisions
import MeetingInsights.Proofs.MergeSequence
import Mathlib.Data.List.Forall2

/-! # Spellings of references

A merge reads the reference of a match by its meaning: of two spellings of one identifier it makes the
same. At a match without a reference that means something it stops, having done nothing for the match,
and says what the provider has sent.
-/

namespace MeetingInsights

/-- A match refers to an identifier if its reference spells it. -/
def Match.RefersTo (m : Match) (u : Uuid) : Prop := ∃ raw, m.reference = some raw ∧ u.IsReadOf raw

private theorem Match.id?_eq_some_iff {m : Match} {u : Uuid} : m.id? = some u ↔ m.RefersTo u := by
  simp only [Match.id?, Option.bind_eq_some_iff, Uuid.parse?_trim_eq_some_iff, Match.RefersTo]

namespace Merge

/-- Two findings that differ in no more than the spelling of a reference. -/
inductive Respelled : Finding → Finding → Prop
  | same (f : Finding) : Respelled f f
  | reference {m m' : Match} {u : Uuid} (refers : m.RefersTo u) (refers' : m'.RefersTo u)
      (quotes : m.quotes = m'.quotes) : Respelled (.matched m) (.matched m')

theorem reference_eq_ok {m : Match} {u : Uuid} (refers : m.RefersTo u) : reference m = .ok u :=
  reference_eq_ok_iff.mpr (Match.id?_eq_some_iff.mpr refers)

private theorem Respelled.applyFinding_eq {f g : Finding} (h : Respelled f g) (meeting : Uuid) :
    applyFinding meeting f = applyFinding meeting g := by
  cases h with
  | same => rfl
  | reference refers refers' quotes =>
    simp only [applyFinding, reference_eq_ok refers, reference_eq_ok refers', quotes]

/-- The spellings of references make no difference to a merge as a program, and so none to its runs,
whatever answers its calls and whoever else is at work between them. -/
theorem apply_respelled {fs gs : List Finding} (h : List.Forall₂ Respelled fs gs) (meeting : Uuid) :
    apply meeting fs = apply meeting gs := by
  induction h with
  | nil => rfl
  | cons first _ ih => simp only [apply, first.applyFinding_eq, ih]

/-- A merge says of the reference of a match either that it is missing or what it is. -/
theorem reference_eq_error {m : Match} (lost : ∀ u, ¬ m.RefersTo u) :
    ∃ detail, reference m = .error (.invalidReference detail) ∧
      ∀ raw, m.reference = some raw → detail = "'" ++ raw ++ "' is not a valid opportunity id" := by
  cases given : m.reference with
  | none => exact ⟨_, by rw [reference, given]; rfl, fun _ none => nomatch none⟩
  | some raw =>
    have unread : Uuid.parse? (Text.trim raw) = none := by
      by_contra read
      obtain ⟨u, read⟩ := Option.ne_none_iff_exists'.mp read
      exact lost u ⟨raw, given, Uuid.parse?_trim_eq_some_iff.mp read⟩
    refine ⟨"'" ++ raw ++ "' is not a valid opportunity id", ?_, fun _ same => ?_⟩
    · rw [reference, given]
      simp only [unread]
      rfl
    · cases same
      rfl

/-- The text of the failure has the reference in it as the provider has sent it. -/
theorem infix_message_of_malformed (raw : String) :
    raw.toList <:+: (malformedReference raw).message.toList := by
  have text : (malformedReference raw).message =
      "Invalid opportunity reference: " ++ ("'" ++ raw ++ "' is not a valid opportunity id") := rfl
  rw [text, String.toList_append, String.toList_append, String.toList_append]
  refine List.IsInfix.trans ?_ (List.suffix_append _ _).isInfix
  exact List.infix_append _ _ _

private theorem run_apply_of_refused {meeting : Uuid} {before after : List Finding} {m : Match}
    {e : Error} (refused : reference m = .error e) {provider : Provider} {b b₁ : Backend}
    {s : Summary} (reached : (apply meeting before).run provider b = (.ok s, b₁)) :
    (apply meeting (before ++ .matched m :: after)).run provider b = (.error e, b₁) := by
  have stops : (apply meeting (.matched m :: after)).run provider b₁ = (.error e, b₁) := by
    refine Attempt.run_bind_of_error (t := applyFinding meeting (.matched m)) ?_ _
    rw [applyFinding, refused]
    rfl
  rw [run_apply_append, reached]
  simp only [stops]

/-- References go by their meaning. Texts are read as an identifier just if they spell it, with white
space around it or none. Respelling references makes no difference to a merge, and one that means
nothing stops it where it stands. -/
theorem references_go_by_meaning (meeting : Uuid) (provider : Provider) (b : Backend) :
    (∀ raw u, Uuid.parse? (Text.trim raw) = some u ↔ u.IsReadOf raw) ∧
    (∀ fs gs, List.Forall₂ Respelled fs gs →
      (apply meeting fs).run provider b = (apply meeting gs).run provider b) ∧
    ∀ before m after s b₁, (apply meeting before).run provider b = (.ok s, b₁) →
      (∀ u, ¬ m.RefersTo u) → ∃ detail,
        (apply meeting (before ++ .matched m :: after)).run provider b =
          (.error (.invalidReference detail), b₁) ∧
        ∀ raw, m.reference = some raw →
          raw.toList <:+: (Error.invalidReference detail).message.toList := by
  refine ⟨fun raw u => Uuid.parse?_trim_eq_some_iff, fun fs gs h => by rw [apply_respelled h],
    fun before m after s b₁ reached lost => ?_⟩
  obtain ⟨detail, refused, names⟩ := reference_eq_error lost
  refine ⟨detail, run_apply_of_refused refused reached, fun raw given => ?_⟩
  rw [names raw given]
  exact infix_message_of_malformed raw

def bracedMatch : Match := ⟨some " \x7b00000000-0000-0000-0000-00000000000A\x7d\n", []⟩

def bareMatch : Match := ⟨some "0000000000000000000000000000000a", []⟩

def namelessMatch : Match := ⟨some "opp-7", [⟨"It happened again", none⟩]⟩

theorem references_go_by_meaning_oneQueued (provider : Provider) :
    (apply ⟨1⟩ [.matched bracedMatch]).run provider .oneQueued =
        (apply ⟨1⟩ [.matched bareMatch]).run provider .oneQueued ∧
      ∃ detail, (apply ⟨1⟩ [.matched namelessMatch]).run provider .oneQueued =
        (.error (.invalidReference detail), .oneQueued) := by
  obtain ⟨reads, respelled, stops⟩ := references_go_by_meaning ⟨1⟩ provider .oneQueued
  have braced : bracedMatch.RefersTo ⟨10⟩ := ⟨_, rfl, (reads _ _).mp (by decide +kernel)⟩
  have bare : bareMatch.RefersTo ⟨10⟩ := ⟨_, rfl, (reads _ _).mp (by decide +kernel)⟩
  refine ⟨respelled _ _ (.cons (.reference braced bare rfl) .nil), ?_⟩
  have lost (u : Uuid) : ¬ namelessMatch.RefersTo u := by
    rintro ⟨raw, given, read⟩
    cases given
    have none : Uuid.parse? (Text.trim "opp-7") = none := by decide +kernel
    rw [← reads, none] at read
    cases read
  obtain ⟨detail, stopped, -⟩ := stops [] namelessMatch [] .empty .oneQueued rfl lost
  exact ⟨detail, stopped⟩

end Merge

end MeetingInsights
