import MeetingInsights.Proofs.Interleavings
import MeetingInsights.Proofs.Statuses

/-! # Programs one after another

To run programs one after another, each to its end before the next begins, is one of the ways in
which they can share a backend.
-/

namespace MeetingInsights

variable {α : Type}

/-- Runs programs one after another. The results are in the order of the programs. -/
def Program.runInTurn (provider : Provider) : List (Program α) → Backend → List α × Backend
  | [], b => ([], b)
  | p :: ps, b =>
    let (a, b) := p.run provider b
    let (results, b) := runInTurn provider ps b
    (a :: results, b)

theorem Program.length_runInTurn (provider : Provider) (ps : List (Program α)) (b : Backend) :
    (runInTurn provider ps b).1.length = ps.length := by
  induction ps generalizing b with
  | nil => rfl
  | cons p ps ih =>
    rw [runInTurn, List.length_cons, ih, List.length_cons]

private theorem Program.faults_run (provider : Provider) (p : Program α) {b : Backend}
    (calm : b.faults = []) : (p.run provider b).2.faults = [] := by
  induction p generalizing b with
  | done a => exact calm
  | call c next ih =>
    rw [run_call, Backend.answer_of_faultless calm]
    exact ih _ ((Backend.faults_perform c).trans calm)

namespace Interleaving

variable {w : Interleaving α} {i : Nat}

def own (w : Interleaving α) : Conditions := ⟨w.backend.faults, w.backend.supply, w.backend.now⟩

private theorem under_own (w : Interleaving α) : w.backend.under w.own = w.backend := rfl

theorem run_append (w : Interleaving α) (provider : Provider)
    (before after : List (Nat × Conditions)) :
    w.run provider (before ++ after) = (w.run provider before).run provider after :=
  List.foldl_append

/-- A program that has all the turns until it is over runs as if it were alone. -/
theorem exists_turns_of_one (provider : Provider) {t : Thread α} (stands : w.threads[i]? = some t)
    (calm : w.backend.faults = []) :
    ∃ turns past, (∀ u ∈ turns, u.2.faults = []) ∧
      w.run provider turns =
        ⟨(t.rest.run provider w.backend).2,
          w.threads.set i ⟨past, .done (t.rest.run provider w.backend).1⟩⟩ := by
  obtain ⟨past, rest⟩ := t
  induction rest generalizing w past with
  | done a =>
    refine ⟨[], past, by simp, ?_⟩
    obtain ⟨hi, same⟩ := List.getElem?_eq_some_iff.mp stands
    have unchanged : w.threads.set i ⟨past, .done a⟩ = w.threads := by
      rw [← same, List.set_getElem_self]
    rw [Program.run_done, unchanged]
    rfl
  | call c next ih =>
    have moved : w.advance provider i w.own = _ := advance_of_call stands
    rw [under_own] at moved
    have faults : (w.backend.answer provider c).2.faults = [] := by
      rw [Backend.answer_of_faultless calm, Backend.faults_perform, calm]
    obtain ⟨hi, _⟩ := List.getElem?_eq_some_iff.mp stands
    obtain ⟨turns, past', peaceful, run⟩ :=
      ih (w.backend.answer provider c).1 (w := w.advance provider i w.own)
        (by rw [moved]; exact faults) (past ++ [⟨c, (w.backend.answer provider c).1⟩])
        (by rw [moved]; exact List.getElem?_set_self hi)
    refine ⟨(i, w.own) :: turns, past', ?_, ?_⟩
    · exact List.forall_mem_cons.mpr ⟨calm, peaceful⟩
    · rw [run_cons, run, moved, List.set_set]
      rfl

private theorem exists_turns_of_rest (provider : Provider) {before : List (Thread α)}
    {programs : List (Program α)} (stand : w.threads = before ++ programs.map fun p => ⟨[], p⟩)
    (calm : w.backend.faults = []) :
    ∃ turns after, (∀ u ∈ turns, u.2.faults = []) ∧
      w.run provider turns =
        ⟨(Program.runInTurn provider programs w.backend).2, before ++ after⟩ ∧
      after.map (fun t => t.rest.result?) =
        (Program.runInTurn provider programs w.backend).1.map some := by
  induction programs generalizing w before with
  | nil =>
    refine ⟨[], [], by simp, ?_, rfl⟩
    rw [List.append_nil, ← (List.append_nil before ▸ stand : w.threads = before)]
    rfl
  | cons p programs ih =>
    have first : w.threads[before.length]? = some ⟨[], p⟩ := by simp [stand]
    obtain ⟨turns, past, peaceful, run⟩ := exists_turns_of_one provider first calm
    generalize hr : p.run provider w.backend = ended at run
    obtain ⟨a, b⟩ := ended
    let t : Thread α := ⟨past, .done a⟩
    have threads : w.threads.set before.length t =
        (before ++ [t]) ++ programs.map fun p => ⟨[], p⟩ := by
      simp [stand]
    have faults : b.faults = [] := by
      rw [show b = (p.run provider w.backend).2 by rw [hr]]
      exact p.faults_run provider calm
    obtain ⟨turns', after, peaceful', run', results⟩ :=
      ih (w := ⟨b, w.threads.set before.length t⟩) threads faults
    refine ⟨turns ++ turns', t :: after, List.forall_mem_append.mpr ⟨peaceful, peaceful'⟩, ?_, ?_⟩
    · rw [run_append, run, run', Program.runInTurn, hr, List.append_assoc]
      rfl
    · rw [List.map_cons, results, Program.runInTurn, hr]
      rfl

private theorem result?_of_results {as : List α}
    (results : w.threads.map (fun t => t.rest.result?) = as.map some) (i : Nat) :
    w.result? i = as[i]? := by
  have there := congrArg (fun l : List (Option α) => l[i]?) results
  simp only [List.getElem?_map] at there
  calc w.result? i
    _ = ((w.threads[i]?).map fun t => t.rest.result?).bind id := by
      rw [Option.bind_map]
      rfl
    _ = ((as[i]?).map some).bind id := by rw [there]
    _ = as[i]? := by cases as[i]? <;> rfl

/-- What programs come to that are run one after another they come to with some turns as well. -/
theorem exists_turns_inTurn (provider : Provider) {b : Backend} (calm : b.faults = [])
    (programs : List (Program α)) :
    ∃ turns, (∀ u ∈ turns, u.2.faults = []) ∧
      ((launched b programs).run provider turns).backend =
        (Program.runInTurn provider programs b).2 ∧
      ∀ i, ((launched b programs).run provider turns).result? i =
        (Program.runInTurn provider programs b).1[i]? := by
  have stand : (launched b programs).threads = [] ++ programs.map fun p => ⟨[], p⟩ := rfl
  obtain ⟨turns, after, peaceful, run, results⟩ := exists_turns_of_rest provider stand calm
  rw [List.nil_append] at run
  exact ⟨turns, peaceful, congrArg Interleaving.backend run,
    result?_of_results (by rw [run]; exact results)⟩

end Interleaving

end MeetingInsights
