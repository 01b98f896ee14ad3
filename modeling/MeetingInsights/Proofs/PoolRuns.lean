import MeetingInsights.Pool.Basic
import MeetingInsights.Proofs.Exchanges

/-! # Runs of a worker pool

A pool with its backend, on which callers, workers and others act in any order. What an action does
is said once, as a change that names every part that becomes another; an action that is not due does
nothing.
-/

namespace MeetingInsights.Pool

/-- Where the call stands that was the first to start the pool. -/
inductive StartCall where
  /-- Not made, or over. -/
  | absent
  /-- The pool is marked as started. -/
  | marked
  /-- The pool was found neither stopped nor signalled. -/
  | cleared
deriving DecidableEq, Repr, Inhabited

structure World where
  pool : Pool
  backend : Backend
  start : StartCall

/-- What can happen. -/
inductive Action where
  | enqueue (id : Uuid)
  | markStart
  | testStart
  | spawn
  | announce (v : Nat)
  | take (v : Nat)
  /-- A worker that looked at the signal before it was given goes on to the queue after it. -/
  | takeLate (v : Nat)
  | startJob (v : Nat)
  | work (v : Nat) (provider : Provider)
  | crash (v : Nat)
  | untrack (v : Nat)
  | report (v : Nat)
  | leave (v : Nat)
  | endTicker
  | callStop
  | stopStep (k : Nat)
  | cancelStop (k : Nat)
  /-- Somebody else has changed the backend. -/
  | elsewhere (b : Backend)

def takeLate? (p : Pool) (v : Nat) : Option Pool :=
  match ({ p with isSignalled := false } : Pool).takeNext? v with
  | some q => some { q with isSignalled := p.isSignalled }
  | none => none

namespace World

def opened (settings : Settings) (b : Backend) : World := ⟨.new settings, b, .absent⟩

/-- The pool takes a step, if it is due. -/
def onPool (w : World) (p? : Option Pool) : World := { w with pool := p?.getD w.pool }

def act (w : World) : Action → World
  | .enqueue id => { w with pool := (w.pool.enqueue id).2 }
  | .markStart =>
    match w.pool.markStarted with
    | (true, p) => { w with pool := p, start := .marked }
    | (false, p) => { w with pool := p }
  | .testStart =>
    match w.start with
    | .marked => { w with start := if w.pool.maySpawn then .cleared else .absent }
    | _ => w
  | .spawn =>
    match w.start with
    | .cleared => { w with pool := w.pool.spawn, start := .absent }
    | _ => w
  | .announce v => w.onPool (w.pool.announce? v)
  | .take v => w.onPool (w.pool.takeNext? v)
  | .takeLate v => w.onPool (w.pool.takeLate? v)
  | .startJob v => w.onPool (w.pool.startJob? v)
  | .work v provider =>
    match w.pool.work? v provider w.backend with
    | some (p, b) => { w with pool := p, backend := b }
    | none => w
  | .crash v =>
    match w.pool.nextCall? v with
    | some (.extract m roster) =>
      { w.onPool (w.pool.crash? v) with
        backend := (w.backend.perform (fun _ _ => .ok []) (.extract m roster)).2 }
    | _ => w
  | .untrack v => w.onPool (w.pool.untrack? v)
  | .report v => w.onPool (w.pool.report? v)
  | .leave v => w.onPool (w.pool.leave? v)
  | .endTicker => w.onPool w.pool.endTicker?
  | .callStop => { w with pool := { w.pool with stops := w.pool.stops ++ [.pending] } }
  | .stopStep k => w.onPool (w.pool.stopStep? k)
  | .cancelStop k => w.onPool (w.pool.cancelStop? k)
  | .elsewhere b => { w with backend := b }

/-- The exchange that an action is, with the meeting of the job that makes it. -/
def exchange? (w : World) : Action → Option (Uuid × Exchange)
  | .work v provider =>
    match w.pool.workers[v]? with
    | some (.working id (.call c _)) => some (id, ⟨c, (w.backend.answer provider c).1⟩)
    | _ => none
  | _ => none

def run (w : World) (actions : List Action) : World := actions.foldl act w

end World

def dealing (id : Uuid) : Option (Uuid × Exchange) → List Exchange
  | some (i, x) => if i = id then [x] else []
  | none => []

namespace World

/-- What the jobs of a meeting exchange in the course of actions. -/
def dealings (w : World) (id : Uuid) : List Action → List Exchange
  | [] => []
  | a :: actions => dealing id (w.exchange? a) ++ (w.act a).dealings id actions

/-- Others change the backend in this manner only. -/
def Permits (others : Backend → Backend → Prop) (w : World) : List Action → Prop
  | [] => True
  | a :: actions => (∀ b, a = .elsewhere b → others w.backend b) ∧ (w.act a).Permits others actions

end World

theorem World.permits_of_forall_ne {others : Backend → Backend → Prop} {actions : List Action}
    (h : ∀ a ∈ actions, ∀ b, a ≠ .elsewhere b) (w : World) : w.Permits others actions := by
  induction actions generalizing w with
  | nil => trivial
  | cons a actions ih =>
    obtain ⟨ha, hactions⟩ := List.forall_mem_cons.mp h
    exact ⟨fun b he => (ha b he).elim, ih hactions _⟩

/-- The queue, the tracked meetings, the workers and the events are as before. -/
structure SameQueue (p q : Pool) : Prop where
  settings : q.settings = p.settings
  buffer : q.buffer = p.buffer
  tracked : q.tracked = p.tracked
  isStarted : q.isStarted = p.isStarted
  workers : q.workers = p.workers
  events : q.events = p.events

theorem SameQueue.refl (p : Pool) : SameQueue p p := ⟨rfl, rfl, rfl, rfl, rfl, rfl⟩

def moved (p : Pool) (v : Nat) (φ : Phase) (events : List Event) : Pool :=
  { p.setPhase v φ with events := p.events ++ events }

theorem moved_nil (p : Pool) (v : Nat) (φ : Phase) : p.moved v φ [] = p.setPhase v φ := by
  simp [moved, setPhase]

/-- The changes of phase that concern neither the queue nor the backend. -/
inductive Moves (v : Nat) : Phase → Phase → List Event → Prop where
  | announce : Moves v .starting .idle [.workerStarted v]
  | withdraw : Moves v .idle .leaving []
  | start {id} : Moves v (.taken id) (.working id (Job.process id)) [.jobStarted id v]
  | conclude {id o} : Moves v (.working id (.done o)) (.finished id o) []
  | report {id o} : Moves v (.reporting id o) .idle [.ofOutcome id o]
  | leave : Moves v .leaving .gone [.workerStopped v]

/-- What an action may do to a world, with the exchange that it is. -/
inductive Change (others : Backend → Backend → Prop) (w : World) :
    World → Option (Uuid × Exchange) → Prop where
  | still {p} (same : SameQueue w.pool p) : Change others w { w with pool := p } none
  | mark (first : w.pool.isStarted = false) :
      Change others w { w with pool := { w.pool with isStarted := true }, start := .marked } none
  | test {start} (marked : w.start = .marked) : Change others w { w with start } none
  | spawn (cleared : w.start = .cleared) :
      Change others w { w with pool := w.pool.spawn, start := .absent } none
  | accept {id} (fresh : id ∉ w.pool.tracked)
      (room : w.pool.buffer.length < w.pool.settings.bufferSize) :
      Change others w { w with pool :=
        { w.pool with buffer := w.pool.buffer ++ [id], tracked := id :: w.pool.tracked } } none
  | drop {id} : Change others w { w with pool := w.pool.emit (.jobDropped id) } none
  | move {v φ φ' events} (stands : w.pool.workers[v]? = some φ) (moves : Moves v φ φ' events) :
      Change others w { w with pool := w.pool.moved v φ' events } none
  | take {v id rest} (stands : w.pool.workers[v]? = some .idle) (head : w.pool.buffer = id :: rest) :
      Change others w { w with pool := { w.pool.moved v (.taken id) [] with buffer := rest } } none
  | answer {v id c next} (provider : Provider)
      (stands : w.pool.workers[v]? = some (.working id (.call c next))) :
      Change others w
        { w with
          pool := w.pool.moved v (.working id (next (w.backend.answer provider c).1)) []
          backend := (w.backend.answer provider c).2 }
        (some (id, ⟨c, (w.backend.answer provider c).1⟩))
  | crash {v id m roster next}
      (stands : w.pool.workers[v]? = some (.working id (.call (.extract m roster) next))) :
      Change others w
        { w with
          pool := w.pool.moved v (.crashed id) []
          backend :=
            { w.backend with consultations := w.backend.consultations ++ [⟨m, roster⟩] } }
        none
  | untrack {v id o} (stands : w.pool.workers[v]? = some (.finished id o)) :
      Change others w { w with pool :=
        { w.pool.moved v (.reporting id o) [] with
          tracked := w.pool.tracked.filter fun t => t ≠ id } } none
  | elsewhere {b} (admitted : others w.backend b) : Change others w { w with backend := b } none

variable {p q : Pool} {v : Nat}

theorem announce?_eq_some (h : p.announce? v = some q) :
    p.workers[v]? = some .starting ∧ q = p.moved v .idle [.workerStarted v] := by
  unfold announce? at h
  split at h
  · cases h
    exact ⟨by assumption, rfl⟩
  · cases h

/-- An idle worker withdraws from a pool that is signalled or closed, or takes the meeting that waits
first. -/
inductive Turns (p : Pool) (v : Nat) : Pool → Prop where
  | withdraws (stands : p.workers[v]? = some .idle)
      (shut : p.isSignalled = true ∨ p.isOpen = false) : Turns p v (p.moved v .leaving [])
  | takes {id rest} (stands : p.workers[v]? = some .idle) (head : p.buffer = id :: rest) :
      Turns p v { p.moved v (.taken id) [] with buffer := rest }

theorem takeNext?_eq_some (h : p.takeNext? v = some q) : Turns p v q := by
  unfold takeNext? at h
  split at h
  · rename_i hv
    rw [← moved_nil] at h
    split at h
    · rename_i signalled
      cases h
      exact .withdraws hv (.inl signalled)
    · split at h
      · rename_i id rest hbuffer
        cases h
        simpa [moved, setPhase] using Turns.takes hv hbuffer
      · split at h
        · cases h
        · rename_i closed
          cases h
          exact .withdraws hv (.inr (Bool.eq_false_iff.mpr closed))
  · cases h

/-- A worker that has looked at the signal too early withdraws when the queue is closed. -/
theorem takeLate?_eq_some (h : p.takeLate? v = some q) : Turns p v q := by
  unfold takeLate? at h
  split at h
  · rename_i r hr
    cases h
    cases takeNext?_eq_some hr with
    | withdraws stands shut => exact .withdraws stands (.inr (shut.resolve_left nofun))
    | takes stands head => exact .takes stands head
  · cases h

theorem startJob?_eq_some (h : p.startJob? v = some q) :
    ∃ id, p.workers[v]? = some (.taken id) ∧
      q = p.moved v (.working id (Job.process id)) [.jobStarted id v] := by
  unfold startJob? at h
  split at h
  · rename_i id hv
    cases h
    exact ⟨id, hv, rfl⟩
  · cases h

theorem untrack?_eq_some (h : p.untrack? v = some q) :
    ∃ id o, p.workers[v]? = some (.finished id o) ∧
      q = { p.moved v (.reporting id o) [] with tracked := p.tracked.filter fun t => t ≠ id } := by
  unfold untrack? at h
  split at h
  · rename_i id o hv
    cases h
    exact ⟨id, o, hv, by simp [moved, setPhase]⟩
  · cases h

theorem report?_eq_some (h : p.report? v = some q) :
    ∃ id o, p.workers[v]? = some (.reporting id o) ∧ q = p.moved v .idle [.ofOutcome id o] := by
  unfold report? at h
  split at h
  · rename_i id o hv
    cases h
    exact ⟨id, o, hv, rfl⟩
  · cases h

theorem leave?_eq_some (h : p.leave? v = some q) :
    p.workers[v]? = some .leaving ∧ q = p.moved v .gone [.workerStopped v] := by
  unfold leave? at h
  split at h
  · cases h
    exact ⟨by assumption, rfl⟩
  · cases h

theorem endTicker?_eq_some (h : p.endTicker? = some q) : SameQueue p q := by
  unfold endTicker? at h
  split at h
  · cases h
    exact ⟨rfl, rfl, rfl, rfl, rfl, rfl⟩
  · cases h

private theorem sameQueue_signal (p : Pool) : SameQueue p p.signal := by
  unfold signal
  split
  · exact .refl p
  · exact ⟨rfl, rfl, rfl, rfl, rfl, rfl⟩

theorem SameQueue.setStop (h : SameQueue p q) (k : Nat) (call : StopCall) :
    SameQueue p (q.setStop k call) :=
  ⟨h.settings, h.buffer, h.tracked, h.isStarted, h.workers, h.events⟩

theorem stopStep?_eq_some {k : Nat} (h : p.stopStep? k = some q) : SameQueue p q := by
  unfold stopStep? at h
  split at h
  · split at h
    · cases h
      exact (SameQueue.refl p).setStop k _
    · split at h
      · cases h
      · cases h
        exact ⟨rfl, rfl, rfl, rfl, rfl, rfl⟩
  · cases h
    exact (sameQueue_signal p).setStop k _
  · cases h
    exact ⟨rfl, rfl, rfl, rfl, rfl, rfl⟩
  · split at h
    · cases h
      exact ⟨rfl, rfl, rfl, rfl, rfl, rfl⟩
    · cases h
  · cases h

theorem cancelStop?_eq_some {k : Nat} (h : p.cancelStop? k = some q) : SameQueue p q := by
  unfold cancelStop? at h
  split at h
  · cases h
  · cases h
  · cases h
  · cases h
    exact (SameQueue.refl p).setStop k _

namespace World

variable {others : Backend → Backend → Prop} {w : World}

/-- A step of the pool that is not due changes nothing, and one that is due what it is known to. -/
theorem change_onPool {p? : Option Pool}
    (h : ∀ p, p? = some p → Change others w { w with pool := p } none) :
    Change others w (w.onPool p?) none := by
  cases p? with
  | none => exact .still (.refl _)
  | some p => exact h p rfl

private theorem change_enqueue (id : Uuid) :
    Change others w { w with pool := (w.pool.enqueue id).2 } none := by
  unfold enqueue
  split
  · exact .still (.refl _)
  · split
    · exact .still (.refl _)
    · rename_i hfresh
      split
      · rename_i hroom
        exact .accept hfresh hroom
      · exact .drop

theorem change_turn {v : Nat} {q : Pool} (h : Turns w.pool v q) :
    Change others w { w with pool := q } none := by
  cases h with
  | withdraws stands => exact .move stands .withdraw
  | takes stands head => exact .take stands head

private theorem change_markStart : Change others w (w.act .markStart) none := by
  simp only [act, markStarted]
  cases h : w.pool.isStarted with
  | true => exact .still ⟨rfl, rfl, rfl, h.symm, rfl, rfl⟩
  | false => exact .mark h

private theorem change_work (v : Nat) (provider : Provider) :
    Change others w (w.act (.work v provider)) (w.exchange? (.work v provider)) := by
  simp only [act, exchange?, work?]
  cases hv : w.pool.workers[v]? with
  | none => exact .still (.refl _)
  | some φ =>
    cases φ with
    | working id job =>
      cases job with
      | call c next =>
        simp only [← moved_nil]
        exact .answer provider hv
      | done o =>
        simp only [← moved_nil]
        exact .move hv .conclude
    | starting | idle | taken | finished | reporting | leaving | gone | crashed => exact .still (.refl _)

private theorem change_crash (v : Nat) : Change others w (w.act (.crash v)) none := by
  simp only [act, nextCall?, crash?]
  cases hv : w.pool.workers[v]? with
  | none => exact .still (.refl _)
  | some φ =>
    cases φ with
    | working id job =>
      cases job with
      | call c next =>
        cases c with
        | extract m roster =>
          simp only [onPool, Option.getD_some, ← moved_nil]
          exact .crash hv
        | createMeeting | fetchMeeting | updateStatus | idsByStatus | createOpportunity | roster
        | findTheme | createTheme | addEvidence => exact .still (.refl _)
      | done o => exact .still (.refl _)
    | starting | idle | taken | finished | reporting | leaving | gone | crashed => exact .still (.refl _)

theorem change_act (a : Action) (h : ∀ b, a = .elsewhere b → others w.backend b) :
    Change others w (w.act a) (w.exchange? a) := by
  cases a with
  | enqueue id => exact change_enqueue id
  | markStart => exact change_markStart
  | testStart =>
    simp only [act]
    split
    · exact .test (by assumption)
    · exact .still (.refl _)
  | spawn =>
    simp only [act]
    split
    · exact .spawn (by assumption)
    · exact .still (.refl _)
  | announce v =>
    refine change_onPool fun p hp => ?_
    obtain ⟨hv, rfl⟩ := announce?_eq_some hp
    exact .move hv .announce
  | take v => exact change_onPool fun p hp => change_turn (takeNext?_eq_some hp)
  | takeLate v => exact change_onPool fun p hp => change_turn (takeLate?_eq_some hp)
  | startJob v =>
    refine change_onPool fun p hp => ?_
    obtain ⟨id, hv, rfl⟩ := startJob?_eq_some hp
    exact .move hv .start
  | work v provider => exact change_work v provider
  | crash v => exact change_crash v
  | untrack v =>
    refine change_onPool fun p hp => ?_
    obtain ⟨id, o, hv, rfl⟩ := untrack?_eq_some hp
    exact .untrack hv
  | report v =>
    refine change_onPool fun p hp => ?_
    obtain ⟨id, o, hv, rfl⟩ := report?_eq_some hp
    exact .move hv .report
  | leave v =>
    refine change_onPool fun p hp => ?_
    obtain ⟨hv, rfl⟩ := leave?_eq_some hp
    exact .move hv .leave
  | endTicker => exact change_onPool fun p hp => .still (endTicker?_eq_some hp)
  | callStop => exact .still ⟨rfl, rfl, rfl, rfl, rfl, rfl⟩
  | stopStep k => exact change_onPool fun p hp => .still (stopStep?_eq_some hp)
  | cancelStop k => exact change_onPool fun p hp => .still (cancelStop?_eq_some hp)
  | elsewhere b => exact .elsewhere (h b rfl)

/-- What every change keeps, given what the jobs of a meeting have exchanged, holds after a run. -/
theorem run_invariant {I : World → List Exchange → Prop} {id : Uuid} {xs : List Exchange}
    (initial : I w xs)
    (keep : ∀ {w w' d xs}, I w xs → Change others w w' d → I w' (xs ++ dealing id d))
    {actions : List Action} (h : w.Permits others actions) :
    I (w.run actions) (xs ++ w.dealings id actions) := by
  induction actions generalizing w xs with
  | nil =>
    rw [dealings, List.append_nil]
    exact initial
  | cons a actions ih =>
    rw [dealings, ← List.append_assoc]
    exact ih (keep initial (change_act a h.1)) h.2

/-- What every change keeps holds after every run. -/
theorem run_keeps {J : World → Prop} (w : World) (initial : J w)
    (keep : ∀ {w w' d}, J w → Change (fun _ _ => True) w w' d → J w') (actions : List Action) :
    J (w.run actions) := by
  induction actions generalizing w with
  | nil => exact initial
  | cons a actions ih => exact ih (w.act a) (keep initial (change_act a fun _ _ => trivial))

end World

end MeetingInsights.Pool
