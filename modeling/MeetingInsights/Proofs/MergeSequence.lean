import MeetingInsights.Merge
import MeetingInsights.Proofs.AttemptRuns

/-! # Merges in sequence

A merge of findings is a merge of the first of them and then one of the others. Nothing is read
ahead, so a failure leaves what the others would have found; nothing is taken back, so the others
start from all that has been written.
-/

namespace MeetingInsights.Merge

/-- As a program, so whatever answers its calls and whoever else is at work between them. -/
theorem apply_append (meeting : Uuid) (xs ys : List Finding) :
    apply meeting (xs ++ ys) = do
      let s ← apply meeting xs
      let t ← apply meeting ys
      return s ++ t := by
  induction xs with
  | nil =>
    have unchanged : (fun t => Summary.empty ++ t) = id := funext Summary.empty_append
    simp [apply, unchanged]
  | cons f xs ih =>
    calc apply meeting (f :: xs ++ ys)
      _ = applyFinding meeting f >>= fun first =>
            apply meeting (xs ++ ys) >>= fun rest => pure (first ++ rest) := rfl
      _ = applyFinding meeting f >>= fun first => apply meeting xs >>= fun s =>
            apply meeting ys >>= fun t => pure (first ++ (s ++ t)) := by
        simp only [ih, bind_assoc, pure_bind]
      _ = apply meeting (f :: xs) >>= fun s => apply meeting ys >>= fun t => pure (s ++ t) := by
        simp only [apply, bind_assoc, pure_bind, Summary.append_assoc]

/-- From every backend, with whatever faults are due, a merge of `xs ++ ys` fails just as one of
`xs` does, and otherwise goes on where that one has ended as a merge of `ys`. -/
theorem run_apply_append (meeting : Uuid) (xs ys : List Finding) (provider : Provider)
    (b : Backend) :
    (apply meeting (xs ++ ys)).run provider b =
      match (apply meeting xs).run provider b with
      | (.error e, b₁) => (.error e, b₁)
      | (.ok s, b₁) =>
        match (apply meeting ys).run provider b₁ with
        | (.error e, b₂) => (.error e, b₂)
        | (.ok t, b₂) =>
          (.ok
            { created := s.created ++ t.created
              matched := s.matched ++ t.matched
              evidenceAdded := s.evidenceAdded + t.evidenceAdded
              evidenceSkipped := s.evidenceSkipped + t.evidenceSkipped }, b₂) := by
  rw [apply_append, Attempt.run_bind]
  cases (apply meeting xs).run provider b with
  | mk r b₁ =>
    cases r with
    | error e => rfl
    | ok s =>
      simp only [Attempt.run_bind]
      cases (apply meeting ys).run provider b₁ with
      | mk r b₂ => cases r <;> rfl

end MeetingInsights.Merge
