import Mathlib.Data.List.Nodup
import MeetingInsights.Proofs.IntakeStages

/-! # An intake whose workers take their turns one after another

When each worker does all that there is to do before the next one begins, the first does the job,
and the others begin and wait.
-/

namespace MeetingInsights

namespace Pool

variable {p q r : Pool} {b b' : Backend} {provider : Provider} {v fuel : Nat} {id : Uuid}

theorem advance_step (step : p.advance? v provider b = some (q, b')) (fuel : Nat) :
    p.advance v provider b (fuel + 1) = q.advance v provider b' fuel := by
  rw [advance, step]

/-- A pool that runs and in which no meeting waits. -/
structure Drained (p : Pool) : Prop where
  buffer : p.buffer = []
  isOpen : p.isOpen = true
  unsignalled : p.isSignalled = false

/-- What is left of a pool once a worker of it has sent some events and waits. -/
structure Rests (p : Pool) (v : Nat) (es : List Event) (q : Pool) : Prop where
  drained : q.Drained
  workers : q.workers = p.workers.set v .idle
  events : q.events = p.events ++ es

theorem Rests.of_step {ψ : Phase} {es fs : List Event} (h : Rests q v fs r)
    (workers : q.workers = p.workers.set v ψ) (events : q.events = p.events ++ es) :
    Rests p v (es ++ fs) r where
  drained := h.drained
  workers := by rw [h.workers, workers, List.set_set]
  events := by rw [h.events, events, List.append_assoc]

private theorem stands_set {φ : Phase} (stands : p.workers[v]? = some φ) (ψ : Phase) :
    (p.workers.set v ψ)[v]? = some ψ :=
  List.getElem?_set_self (List.getElem?_eq_some_iff.mp stands).1

private theorem advance?_of_idle (stands : p.workers[v]? = some .idle) (drained : p.Drained) :
    p.advance? v provider b = none := by
  have signal : ¬ p.isSignalled = true := Bool.eq_false_iff.mp drained.unsignalled
  simp only [advance?, stands, takeNext?, if_neg signal, drained.buffer, if_pos drained.isOpen]
  rfl

theorem advance_of_idle (stands : p.workers[v]? = some .idle) (drained : p.Drained) (fuel : Nat) :
    p.advance v provider b (fuel + 1) = (p, b) := by
  rw [advance, advance?_of_idle stands drained]

private theorem advance_of_reporting {o : Job.Outcome}
    (stands : p.workers[v]? = some (.reporting id o)) (drained : p.Drained) (fuel : Nat) :
    ∃ q, p.advance v provider b (fuel + 2) = (q, b) ∧ Rests p v [.ofOutcome id o] q := by
  have step : p.advance? v provider b = some (p.moved v .idle [.ofOutcome id o], b) := by
    simp only [advance?, stands, report?, Option.map_some]
    rfl
  have after : (p.moved v .idle [.ofOutcome id o]).Drained :=
    ⟨drained.buffer, drained.isOpen, drained.unsignalled⟩
  exact ⟨_, (advance_step step (fuel + 1)).trans (advance_of_idle (stands_set stands _) after fuel),
    after, rfl, rfl⟩

private theorem advance_of_finished {o : Job.Outcome}
    (stands : p.workers[v]? = some (.finished id o)) (drained : p.Drained) (fuel : Nat) :
    ∃ q, p.advance v provider b (fuel + 3) = (q, b) ∧ Rests p v [.ofOutcome id o] q := by
  obtain ⟨q, step, buffer, workers, isOpen, unsignalled, events⟩ : ∃ q,
      p.advance? v provider b = some (q, b) ∧ q.buffer = p.buffer ∧
        q.workers = p.workers.set v (.reporting id o) ∧ q.isOpen = p.isOpen ∧
        q.isSignalled = p.isSignalled ∧ q.events = p.events ++ [] := by
    simp only [advance?, stands, untrack?, Option.map_some]
    exact ⟨_, rfl, rfl, rfl, rfl, rfl, (List.append_nil _).symm⟩
  have reporting : q.workers[v]? = some (.reporting id o) := workers ▸ stands_set stands _
  obtain ⟨r, ran, rests⟩ := advance_of_reporting reporting
    ⟨buffer.trans drained.buffer, isOpen.trans drained.isOpen,
      unsignalled.trans drained.unsignalled⟩ fuel
  exact ⟨r, (advance_step step (fuel + 2)).trans ran, rests.of_step workers events⟩

private theorem advance_of_working {o : Job.Outcome} {job : Program Job.Outcome}
    (stands : p.workers[v]? = some (.working id job)) (drained : p.Drained)
    (runs : job.run provider b = (o, b')) (fuel : Nat) :
    ∃ q, p.advance v provider b (fuel + 4) = (q, b') ∧ Rests p v [.ofOutcome id o] q := by
  have step : p.advance? v provider b = some (p.moved v (.finished id o) [], b') := by
    simp only [advance?, stands, runs, moved_nil]
  obtain ⟨q, ran, rests⟩ := advance_of_finished (p := p.moved v (.finished id o) [])
    (stands_set stands _) ⟨drained.buffer, drained.isOpen, drained.unsignalled⟩ fuel
  exact ⟨q, (advance_step step (fuel + 3)).trans ran, rests.of_step rfl rfl⟩

theorem advance?_of_starting (stands : p.workers[v]? = some .starting) :
    p.advance? v provider b = some (p.moved v .idle [.workerStarted v], b) := by
  simp only [advance?, stands, announce?, Option.map_some]
  rfl

private theorem advance_of_taken {o : Job.Outcome} (stands : p.workers[v]? = some (.taken id))
    (drained : p.Drained) (runs : (Job.process id).run provider b = (o, b')) (fuel : Nat) :
    ∃ q, p.advance v provider b (fuel + 5) = (q, b') ∧
      Rests p v [.jobStarted id v, .ofOutcome id o] q := by
  have step : p.advance? v provider b =
      some (p.moved v (.working id (Job.process id)) [.jobStarted id v], b) := by
    simp only [advance?, stands, startJob?, Option.map_some]
    rfl
  obtain ⟨q, ran, rests⟩ := advance_of_working
    (p := p.moved v (.working id (Job.process id)) [.jobStarted id v]) (stands_set stands _)
    ⟨drained.buffer, drained.isOpen, drained.unsignalled⟩ runs fuel
  exact ⟨q, (advance_step step (fuel + 4)).trans ran, rests.of_step rfl rfl⟩

private theorem advance_of_waiting {o : Job.Outcome} (stands : p.workers[v]? = some .idle)
    (buffer : p.buffer = [id]) (isOpen : p.isOpen = true) (unsignalled : p.isSignalled = false)
    (runs : (Job.process id).run provider b = (o, b')) (fuel : Nat) :
    ∃ q, p.advance v provider b (fuel + 6) = (q, b') ∧
      Rests p v [.jobStarted id v, .ofOutcome id o] q := by
  have signal : ¬ p.isSignalled = true := Bool.eq_false_iff.mp unsignalled
  obtain ⟨q, step, drained, workers, events⟩ : ∃ q, p.advance? v provider b = some (q, b) ∧
      q.Drained ∧ q.workers = p.workers.set v (.taken id) ∧ q.events = p.events ++ [] := by
    simp only [advance?, stands, takeNext?, if_neg signal, buffer, Option.map_some]
    exact ⟨_, rfl, ⟨rfl, isOpen, unsignalled⟩, rfl, (List.append_nil _).symm⟩
  have taken : q.workers[v]? = some (.taken id) := workers ▸ stands_set stands _
  obtain ⟨r, ran, rests⟩ := advance_of_taken taken drained runs fuel
  exact ⟨r, (advance_step step (fuel + 5)).trans ran, rests.of_step workers events⟩

private theorem advance_of_first {o : Job.Outcome} (stands : p.workers[v]? = some .starting)
    (buffer : p.buffer = [id]) (isOpen : p.isOpen = true) (unsignalled : p.isSignalled = false)
    (runs : (Job.process id).run provider b = (o, b')) (fuel : Nat) :
    ∃ q, p.advance v provider b (fuel + 7) = (q, b') ∧
      Rests p v [.workerStarted v, .jobStarted id v, .ofOutcome id o] q := by
  obtain ⟨q, ran, rests⟩ := advance_of_waiting (p := p.moved v .idle [.workerStarted v])
    (stands_set stands _) buffer isOpen unsignalled runs fuel
  exact ⟨q, (advance_step (advance?_of_starting stands) (fuel + 6)).trans ran,
    rests.of_step rfl rfl⟩

private theorem advanceAll_of_nothing (provider : Provider) {vs : List Nat} (distinct : vs.Nodup)
    (stand : ∀ v ∈ vs, p.workers[v]? = some .starting) (drained : p.Drained) (b : Backend) :
    ∃ q, vs.foldl (fun (p, b) v => p.advance v provider b (stepsPerMeeting * (p.buffer.length + 1)))
        (p, b) = (q, b) ∧ q.events = p.events ++ vs.map .workerStarted := by
  induction vs generalizing p with
  | nil => exact ⟨p, rfl, (List.append_nil _).symm⟩
  | cons v vs ih =>
    obtain ⟨other, distinct⟩ := List.nodup_cons.mp distinct
    obtain ⟨first, stand⟩ := List.forall_mem_cons.mp stand
    have after : (p.moved v .idle [.workerStarted v]).Drained :=
      ⟨drained.buffer, drained.isOpen, drained.unsignalled⟩
    have next : ∀ u ∈ vs, (p.moved v .idle [.workerStarted v]).workers[u]? = some .starting := by
      intro u hu
      have apart : v ≠ u := fun same => other (same ▸ hu)
      exact (List.getElem?_set_ne apart).trans (stand u hu)
    have begins : p.advance v provider b (stepsPerMeeting * (p.buffer.length + 1)) =
        (p.moved v .idle [.workerStarted v], b) := by
      rw [drained.buffer]
      exact (advance_step (advance?_of_starting first) 4).trans
        (advance_of_idle (stands_set first _) after 3)
    obtain ⟨q, ran, events⟩ := ih distinct next after
    refine ⟨q, ?_, ?_⟩
    · simp only [List.foldl_cons, begins]
      exact ran
    · rw [events, List.map_cons]
      exact List.append_assoc _ _ _

/-- A fresh crew to which one meeting has been offered does its job, and tells of its end third. -/
theorem advanceAll_of_fresh {n : Nat} {o : Job.Outcome}
    (workers : p.workers = List.replicate (n + 1) .starting) (buffer : p.buffer = [id])
    (isOpen : p.isOpen = true) (unsignalled : p.isSignalled = false) (events : p.events = [])
    (runs : (Job.process id).run provider b = (o, b')) :
    ∃ q, p.advanceAll provider b = (q, b') ∧
      ∃ rest, q.events = [.workerStarted 0, .jobStarted id 0] ++ .ofOutcome id o :: rest ∧
        rest.length = n := by
  have stands : ∀ v < n + 1, p.workers[v]? = some .starting := fun v hv => by
    rw [workers, List.getElem?_replicate, if_pos hv]
  obtain ⟨q, first, rests⟩ :=
    advance_of_first (stands 0 (Nat.succ_pos n)) buffer isOpen unsignalled runs 3
  have others : ∀ v ∈ (List.range n).map Nat.succ, q.workers[v]? = some .starting := by
    intro v hv
    obtain ⟨u, hu, rfl⟩ := List.mem_map.mp hv
    rw [rests.workers, List.getElem?_set_ne (Nat.succ_ne_zero u).symm]
    exact stands u.succ (Nat.succ_lt_succ (List.mem_range.mp hu))
  have distinct : ((List.range n).map Nat.succ).Nodup :=
    List.Nodup.map Nat.succ_injective List.nodup_range
  obtain ⟨r, ran, told⟩ := advanceAll_of_nothing provider distinct others rests.drained b'
  have begins : p.advance 0 provider b (stepsPerMeeting * (p.buffer.length + 1)) = (q, b') := by
    rw [buffer]
    exact first
  refine ⟨r, ?_, ((List.range n).map Nat.succ).map .workerStarted, ?_, ?_⟩
  · rw [advanceAll, workers, List.length_replicate, List.range_succ_eq_map]
    simp only [List.foldl_cons, begins]
    exact ran
  · rw [told, rests.events, events]
    rfl
  · simp

end Pool

end MeetingInsights
