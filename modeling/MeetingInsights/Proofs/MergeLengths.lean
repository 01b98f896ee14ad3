import Mathlib.Algebra.GroupWithZero.Nat
import MeetingInsights.Merge
import MeetingInsights.Proofs.Exchanges

/-! # How many calls a merge makes

Whatever the answers are, an attempt may be over after a number of calls that is known beforehand. A
merge makes at most four calls for a new opportunity, and one for each quote.
-/

namespace MeetingInsights

namespace Attempt

variable {α β : Type} {t : Attempt α} {m n : Nat}

/-- The attempt is over after `n` calls at most. -/
def EndsWithin (t : Attempt α) (n : Nat) : Prop :=
  ∀ xs o, t.Takes xs o → xs.length ≤ n ∧ (o = none → xs.length < n)

theorem EndsWithin.mono (h : t.EndsWithin m) (le : m ≤ n) : t.EndsWithin n := by
  intro xs o ht
  obtain ⟨most, ended⟩ := h xs o ht
  exact ⟨Nat.le_trans most le, fun ho => Nat.lt_of_lt_of_le (ended ho) le⟩

theorem endsWithin_pure (a : α) : (pure a : Attempt α).EndsWithin 0 := by
  intro xs o h
  obtain ⟨rfl, rfl⟩ := takes_pure_iff.mp h
  simp

theorem endsWithin_throw (e : Error) : (throw e : Attempt α).EndsWithin 0 := by
  intro xs o h
  obtain ⟨rfl, rfl⟩ := takes_throw_iff.mp h
  simp

theorem endsWithin_attempt (c : Call) : c.attempt.EndsWithin 1 := by
  intro xs o h
  rcases takes_attempt_iff.mp h with ⟨rfl, rfl⟩ | ⟨r, rfl, rfl⟩ <;> simp

private theorem endsWithin_lift_ask (c : Call) :
    Attempt.EndsWithin (ExceptT.lift (Program.ask c) : Attempt c.Answer) 1 := by
  intro xs o h
  change Program.Takes (Program.call c fun r => Program.done (Except.ok r)) xs o at h
  simp only [Program.takes_call_iff, Program.takes_done_iff] at h
  rcases h with ⟨rfl, rfl⟩ | ⟨r, ys, rfl, rfl, rfl⟩ <;> simp

theorem EndsWithin.bind {f : α → Attempt β} (ht : t.EndsWithin m) (hf : ∀ a, (f a).EndsWithin n) :
    (t >>= f).EndsWithin (m + n) := by
  intro xs o h
  rcases takes_bind_iff.mp h with ⟨hxs, rfl⟩ | ⟨e, hxs, rfl⟩ | ⟨ys, zs, a, rfl, hys, hzs⟩
  · have fewer := (ht _ _ hxs).2 rfl
    exact ⟨by omega, fun _ => by omega⟩
  · have most := (ht _ _ hxs).1
    exact ⟨by omega, fun hnone => by cases hnone⟩
  · have first := (ht _ _ hys).1
    obtain ⟨most, ended⟩ := hf a _ _ hzs
    rw [List.length_append]
    exact ⟨by omega, fun ho => by have := ended ho; omega⟩

end Attempt

namespace Merge

open Attempt

private theorem endsWithin_themeUnder (name : String) : (themeUnder name).EndsWithin 3 := by
  unfold themeUnder
  refine ((endsWithin_attempt (.findTheme name)).bind (n := 2) fun found => ?_)
  cases found with
  | some t => exact (endsWithin_pure _).mono (Nat.zero_le 2)
  | none =>
    refine ((endsWithin_lift_ask (.createTheme name)).bind (n := 1) fun made => ?_)
    split
    · exact (endsWithin_pure _).mono (Nat.zero_le 1)
    · refine ((endsWithin_attempt (.findTheme name)).bind (n := 0) fun again => ?_)
      cases again with
      | some t => exact endsWithin_pure _
      | none => exact endsWithin_throw _
    · exact (endsWithin_throw _).mono (Nat.zero_le 1)

private theorem endsWithin_themeOf (theme : Option String) : (themeOf theme).EndsWithin 3 := by
  cases theme with
  | none => exact (endsWithin_pure _).mono (Nat.zero_le 3)
  | some raw =>
    simp only [themeOf, resolveTheme]
    split
    · exact (endsWithin_pure _).mono (Nat.zero_le 3)
    · exact (endsWithin_themeUnder _).bind (n := 0) fun id => endsWithin_pure _

private theorem endsWithin_createOpportunity (p : Proposal) : (createOpportunity p).EndsWithin 4 :=
  (endsWithin_themeOf p.theme).bind fun id => endsWithin_attempt
    (.createOpportunity ⟨p.userSegment, p.struggle, p.whyItMatters, p.workaround, id⟩)

private theorem endsWithin_attachQuote (opportunity meeting : Uuid) (q : Quote) :
    (attachQuote opportunity meeting q).EndsWithin 1 := by
  unfold attachQuote
  split
  · exact (endsWithin_pure _).mono (Nat.zero_le 1)
  · exact (endsWithin_attempt _).bind fun _ => endsWithin_pure _

theorem endsWithin_attachQuotes (opportunity meeting : Uuid) (qs : List Quote) :
    (attachQuotes opportunity meeting qs).EndsWithin qs.length := by
  induction qs with
  | nil => exact endsWithin_pure _
  | cons q qs ih =>
    have rest := fun first : Summary =>
      ih.bind fun others => endsWithin_pure (first ++ others)
    exact ((endsWithin_attachQuote opportunity meeting q).bind rest).mono (by simp; omega)

/-- The most calls that a finding takes. -/
def mostCalls : Finding → Nat
  | .proposed p => 4 + p.quotes.length
  | .matched m => m.quotes.length

private theorem endsWithin_applyFinding (meeting : Uuid) (f : Finding) :
    (applyFinding meeting f).EndsWithin (mostCalls f) := by
  cases f with
  | proposed p =>
    exact (endsWithin_createOpportunity p).bind fun id =>
      (endsWithin_attachQuotes id meeting p.quotes).bind (n := 0) fun rest => endsWithin_pure _
  | matched m =>
    have referred : Attempt.EndsWithin (reference m : Except Error Uuid) 0 := by
      cases reference m with
      | ok id => exact endsWithin_pure id
      | error e => exact endsWithin_throw e
    refine (referred.bind fun id => (endsWithin_attachQuotes id meeting m.quotes).bind (n := 0)
      fun rest => endsWithin_pure _).mono ?_
    simp [mostCalls]

theorem endsWithin_apply (meeting : Uuid) (fs : List Finding) :
    (apply meeting fs).EndsWithin (fs.map mostCalls).sum := by
  induction fs with
  | nil => exact endsWithin_pure _
  | cons f fs ih =>
    exact (endsWithin_applyFinding meeting f).bind fun first =>
      ih.bind (n := 0) fun others => endsWithin_pure (first ++ others)

end Merge

end MeetingInsights
