import MeetingInsights.Proofs.Exchanges
import MeetingInsights.Proofs.Statuses

/-! # Runs of attempts

What becomes of a backend when an attempt is run to its end without anybody else at work: a failure
ends it where it stands, and what every call of the attempt keeps is kept by the whole run.
-/

namespace MeetingInsights

namespace Attempt

variable {α β : Type} {provider : Provider} {b b' : Backend}

@[simp] theorem run_pure (a : α) : (pure a : Attempt α).run provider b = (.ok a, b) := rfl

@[simp] theorem run_attempt (c : Call) : c.attempt.run provider b = b.answer provider c := rfl

theorem run_bind (t : Attempt α) (f : α → Attempt β) :
    (t >>= f).run provider b =
      match t.run provider b with
      | (.ok a, b') => (f a).run provider b'
      | (.error e, b') => (.error e, b') := by
  unfold run
  rw [ExceptT.run_bind, Program.run_bind]
  cases h : Program.run provider (ExceptT.run t) b with
  | mk r b' => cases r <;> rfl

theorem run_bind_of_ok {t : Attempt α} {a : α} (h : t.run provider b = (.ok a, b'))
    (f : α → Attempt β) : (t >>= f).run provider b = (f a).run provider b' := by
  rw [run_bind, h]

theorem run_bind_of_error {t : Attempt α} {e : Error} (h : t.run provider b = (.error e, b'))
    (f : α → Attempt β) : (t >>= f).run provider b = (.error e, b') := by
  rw [run_bind, h]

end Attempt

/-- What every call that a program can make keeps, a run of the program keeps. -/
theorem Program.run_keeps {α : Type} {p : Program α} {kind : Call → Prop}
    (calls : ∀ xs o, p.Takes xs o → ∀ x ∈ xs, kind x.call) {provider : Provider}
    {keeps : Backend → Prop} (step : ∀ b c, kind c → keeps b → keeps (b.answer provider c).2)
    {b : Backend} (hb : keeps b) : keeps (p.run provider b).2 := by
  induction p generalizing b with
  | done a => exact hb
  | call c next ih =>
    have first : kind c :=
      calls [⟨c, (b.answer provider c).1⟩] _ (Leaves.answered (.all _)).takes _
        (List.mem_singleton_self _)
    refine ih _ (fun xs o h x hx => ?_) (step b c first hb)
    exact calls _ o (takes_call_iff.mpr (.inr ⟨_, xs, rfl, h⟩)) x (List.mem_cons_of_mem _ hx)

theorem Attempt.Calls.run_keeps {α : Type} {t : Attempt α} {kind : Call → Prop}
    (calls : t.Calls kind) {provider : Provider} {keeps : Backend → Prop}
    (step : ∀ b c, kind c → keeps b → keeps (b.answer provider c).2) {b : Backend}
    (hb : keeps b) : keeps (t.run provider b).2 :=
  Program.run_keeps calls step hb

end MeetingInsights
