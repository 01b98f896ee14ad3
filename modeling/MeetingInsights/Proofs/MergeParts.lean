import MeetingInsights.Proofs.MergeExchanges

/-! # What a merge is put together of

A merge resolves themes, creates opportunities and adds evidence, one after another. What holds of
each of these and of whatever is put together of them holds of every merge.
-/

namespace MeetingInsights

/-- A property of attempts that passes on to all that is put together of attempts with it. -/
structure Attempt.Composes (P : ∀ {α : Type}, Attempt α → Prop) : Prop where
  pure : ∀ {α : Type} (a : α), P (pure a : Attempt α)
  throw : ∀ {α : Type} (e : Error), P (throw e : Attempt α)
  bind : ∀ {α β : Type} {t : Attempt α} {f : α → Attempt β}, P t → (∀ a, P (f a)) → P (t >>= f)

theorem Attempt.composes_calls (kind : Call → Prop) : Composes fun t => t.Calls kind where
  pure a := calls_pure a kind
  throw e := calls_throw e kind
  bind := Calls.bind

namespace Merge

variable {P : ∀ {α : Type}, Attempt α → Prop}

theorem attachQuotes_of_composes (h : Attempt.Composes P)
    (add : ∀ draft, P (Call.addEvidence draft).attempt) (opportunity meeting : Uuid)
    (qs : List Quote) : P (attachQuotes opportunity meeting qs) := by
  have one : ∀ q, P (attachQuote opportunity meeting q) := by
    intro q
    unfold attachQuote
    split
    · exact h.pure _
    · exact h.bind (add _) fun _ => h.pure _
  induction qs with
  | nil => exact h.pure _
  | cons q qs ih => exact h.bind (one q) fun _ => h.bind ih fun _ => h.pure _

private theorem applyFinding_of_composes (h : Attempt.Composes P) (theme : ∀ raw, P (themeOf raw))
    (create : ∀ draft, P (Call.createOpportunity draft).attempt)
    (add : ∀ draft, P (Call.addEvidence draft).attempt) (meeting : Uuid) (f : Finding) :
    P (applyFinding meeting f) := by
  cases f with
  | proposed p =>
    have made : P (createOpportunity p) := h.bind (theme p.theme) fun _ => create _
    exact h.bind made fun id =>
      h.bind (attachQuotes_of_composes h add id meeting p.quotes) fun _ => h.pure _
  | matched m =>
    have referred : P (reference m : Except Error Uuid) := by
      cases reference m with
      | ok id => exact h.pure id
      | error e => exact h.throw e
    exact h.bind referred fun id =>
      h.bind (attachQuotes_of_composes h add id meeting m.quotes) fun _ => h.pure _

theorem apply_of_composes (h : Attempt.Composes P) (theme : ∀ raw, P (themeOf raw))
    (create : ∀ draft, P (Call.createOpportunity draft).attempt)
    (add : ∀ draft, P (Call.addEvidence draft).attempt) (meeting : Uuid) (findings : List Finding) :
    P (apply meeting findings) := by
  induction findings with
  | nil => exact h.pure _
  | cons f fs ih =>
    exact h.bind (applyFinding_of_composes h theme create add meeting f) fun _ =>
      h.bind ih fun _ => h.pure _

end Merge

end MeetingInsights
