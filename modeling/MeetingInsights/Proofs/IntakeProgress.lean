import MeetingInsights.Proofs.IntakeStages

/-! # An intake comes to its end

Every turn in which there is something to do brings the end nearer, and as long as the caller has
not returned there is such a turn. So the caller returns when everybody gets their turns.
-/

namespace MeetingInsights

/-- How many calls a program makes that runs to its end without anybody else at work. -/
def Program.calls {α : Type} (provider : Provider) : Program α → Backend → Nat
  | .done _, _ => 0
  | .call c next, b =>
    (next (b.answer provider c).1).calls provider (b.answer provider c).2 + 1

namespace Pool

/-- How far a worker is from leaving, the calls of its job aside. Its events count, too. -/
def Phase.rank : Phase → Nat
  | .taken _ => 9
  | .working .. => 7
  | .finished .. => 6
  | .starting | .reporting .. => 5
  | .idle => 3
  | .leaving => 2
  | .gone | .crashed _ => 0

def Ticker.rank : Ticker → Nat
  | .ticking => 1
  | .absent | .ended => 0

end Pool

namespace Ingest

open Pool (World Action Event Phase)

variable {provider : Provider} {w w' : World} {v : Nat} {p q : Pool}

/-- How many calls the jobs make that are owed. -/
def callsOwed (provider : Provider) (w : World) : Nat :=
  (w.pool.owed.map fun job => job.2.calls provider w.backend).sum

/-- How far a crew is from having left. -/
def crewRank (provider : Provider) (w : World) : Nat :=
  callsOwed provider w + 7 * w.pool.buffer.length + (w.pool.workers.map Phase.rank).sum +
    w.pool.ticker.rank

/-- How far the caller is from its return. -/
def callerRank (provider : Provider) (w : World) : Caller → Nat
  | .offering id => 16 + w.pool.events.length + (Job.process id).calls provider w.backend
  | .listening _ position => 8 + (w.pool.events.length - position)
  | .stopping .. => (w.pool.stops.map Pool.StopCall.rank).sum
  | .returned _ => 0

def Intake.rank (provider : Provider) (i : Intake) : Nat :=
  crewRank provider i.world + callerRank provider i.world i.caller

theorem rank_moved {φ ψ : Phase} {es : List Event} {b : Backend}
    (stands : w.pool.workers[v]? = some φ)
    (nearer : callsOwed provider { w with pool := w.pool.moved v ψ es, backend := b } +
      (ψ.rank + es.length) < callsOwed provider w + φ.rank) :
    crewRank provider { w with pool := w.pool.moved v ψ es, backend := b } +
        (w.pool.moved v ψ es).events.length <
      crewRank provider w + w.pool.events.length := by
  have sum := Pool.sum_moved Phase.rank stands ψ es
  have sent : (w.pool.moved v ψ es).events.length = w.pool.events.length + es.length :=
    List.length_append
  have buffer : (w.pool.moved v ψ es).buffer = w.pool.buffer := rfl
  have ticker : (w.pool.moved v ψ es).ticker = w.pool.ticker := rfl
  simp only [crewRank, buffer, ticker]
  omega

theorem rank_moved_of_same {φ ψ : Phase} {es : List Event} (stands : w.pool.workers[v]? = some φ)
    (same : ψ.inFlight? = φ.inFlight?) (nearer : ψ.rank + es.length < φ.rank) :
    crewRank provider { w with pool := w.pool.moved v ψ es } +
        (w.pool.moved v ψ es).events.length <
      crewRank provider w + w.pool.events.length := by
  refine rank_moved stands ?_
  simp only [callsOwed, owed_moved stands same es]
  exact Nat.add_lt_add_left nearer _

private theorem rank_take {id : Uuid} {rest : List Uuid} (idle : w.pool.workers[v]? = some .idle)
    (head : w.pool.buffer = id :: rest) :
    crewRank provider
        { w with pool := { w.pool.moved v (.taken id) [] with buffer := rest } } <
      crewRank provider w := by
  have sum := Pool.sum_moved Phase.rank idle (.taken id) []
  have calls : callsOwed provider
      { w with pool := { w.pool.moved v (.taken id) [] with buffer := rest } } =
        callsOwed provider w := ((owed_take idle head).map _).sum_nat
  have ticker : (w.pool.moved v (.taken id) []).ticker = w.pool.ticker := rfl
  unfold crewRank
  rw [calls]
  simp only [ticker, head, List.length_cons, Phase.rank] at sum ⊢
  omega

theorem rank_steps (h : Steps provider w v w') (few : w.pool.owed.length ≤ 1) :
    crewRank provider w' + w'.pool.events.length <
      crewRank provider w + w.pool.events.length := by
  cases h with
  | announce stands | withdraw stands | start stands | conclude stands | leave stands =>
    exact rank_moved_of_same stands rfl (by simp [Phase.rank])
  | untrack stands => exact rank_moved_of_same stands (by rfl) (by simp [Phase.rank])
  | take stands head =>
    have nearer : crewRank provider _ < crewRank provider w := rank_take stands head
    simpa [Pool.moved] using nearer
  | @answer id c next stands =>
    obtain ⟨before, after, hp, hmoved⟩ := owed_split stands
    have alone : before = [] ∧ after = [] := by
      rw [hp] at few
      simp only [Phase.inFlight?, Option.toList_some, List.length_append, List.length_singleton]
        at few
      exact ⟨List.eq_nil_of_length_eq_zero (by omega), List.eq_nil_of_length_eq_zero (by omega)⟩
    obtain ⟨rfl, rfl⟩ := alone
    refine rank_moved stands ?_
    simp only [callsOwed, hp, hmoved]
    simp [Phase.inFlight?, Program.calls, Phase.rank]
  | report stands =>
    obtain ⟨before, after, hp, hmoved⟩ := owed_split stands
    refine rank_moved stands ?_
    simp only [callsOwed, hp, hmoved]
    simp [Phase.inFlight?, Program.calls, Phase.rank]

private theorem exists_look (idle : w.pool.workers[v]? = some .idle)
    (something : w.pool.isSignalled = true ∨ w.pool.buffer ≠ []) :
    Steps provider w v (w.act (.take v)) := by
  cases signalled : w.pool.isSignalled with
  | true =>
    have step : Steps provider w v _ := .withdraw idle (.inl signalled)
    simpa [World.act, World.onPool, Pool.takeNext?, idle, signalled, Pool.moved_nil] using step
  | false =>
    obtain ⟨id, rest, head⟩ :=
      List.exists_cons_of_ne_nil (something.resolve_left (by simp [signalled]))
    have step : Steps provider w v _ := .take idle head
    simpa [World.act, World.onPool, Pool.takeNext?, idle, signalled, head, Pool.moved, Pool.emit,
      Pool.setPhase] using step

private theorem exists_step {φ : Phase} (stands : w.pool.workers[v]? = some φ)
    (staying : φ.isOver = false)
    (something : φ = .idle → w.pool.isSignalled = true ∨ w.pool.buffer ≠ []) :
    ∃ deed : Deed, Steps provider w v (w.act (deed.action provider v)) := by
  cases φ with
  | starting =>
    have step : Steps provider w v _ := .announce stands
    refine ⟨.announce, ?_⟩
    simpa [Deed.action, World.act, World.onPool, Pool.announce?, stands, Pool.moved, Pool.emit,
      Pool.setPhase] using step
  | idle => exact ⟨.take, exists_look stands (something rfl)⟩
  | taken id =>
    have step : Steps provider w v _ := .start stands
    refine ⟨.startJob, ?_⟩
    simpa [Deed.action, World.act, World.onPool, Pool.startJob?, stands, Pool.moved, Pool.emit,
      Pool.setPhase] using step
  | working id job =>
    refine ⟨.work, ?_⟩
    cases job with
    | call c next =>
      have step : Steps provider w v _ := .answer stands
      simpa [Deed.action, World.act, Pool.work?, stands, Pool.moved_nil] using step
    | done o =>
      have step : Steps provider w v _ := .conclude stands
      simpa [Deed.action, World.act, Pool.work?, stands, Pool.moved_nil] using step
  | finished id o =>
    have step : Steps provider w v _ := .untrack stands
    refine ⟨.untrack, ?_⟩
    simpa [Deed.action, World.act, World.onPool, Pool.untrack?, stands, Pool.moved,
      Pool.setPhase] using step
  | reporting id o =>
    have step : Steps provider w v _ := .report stands
    refine ⟨.report, ?_⟩
    simpa [Deed.action, World.act, World.onPool, Pool.report?, stands, Pool.moved, Pool.emit,
      Pool.setPhase] using step
  | leaving =>
    have step : Steps provider w v _ := .leave stands
    refine ⟨.leave, ?_⟩
    simpa [Deed.action, World.act, World.onPool, Pool.leave?, stands, Pool.moved, Pool.emit,
      Pool.setPhase] using step
  | gone | crashed => cases staying

namespace Prospect

variable {g : Prospect provider} {i : Intake}

theorem Proceeds.few (h : g.Proceeds i) : i.world.pool.owed.length ≤ 1 := by
  cases h with
  | offering _ _ _ owed | returned owed => simp [owed]
  | listening _ standing => cases standing with | underWay owed | told owed => simp [owed]
  | stopping stopping => simp [stopping.owed]

theorem Proceeds.rank_steps {c : Caller} (h : g.Proceeds ⟨w, c⟩) (s : Steps provider w v w') :
    Intake.rank provider ⟨w', c⟩ < Intake.rank provider ⟨w, c⟩ := by
  have crew := Ingest.rank_steps s h.few
  have later := s.furthers.events.length_le
  cases h with
  | offering unstopped room tracked owed =>
    have backend := (s.furthers.of_nothing owed).2.1
    simp only [Intake.rank, callerRank, backend]
    omega
  | listening unstopped standing seen =>
    simp only [Intake.rank, callerRank]
    omega
  | stopping stopping =>
    have stops : w'.pool.stops = w.pool.stops := congrArg Pool.Control.stops (control_steps s)
    simp only [Intake.rank, callerRank, stops]
    omega
  | returned =>
    simp only [Intake.rank, callerRank]
    omega

private theorem crewRank_stops (s : Pool.Stops w.pool 0 q) :
    crewRank provider { w with pool := q } = crewRank provider w := by
  cases s with
  | join | close | await | finish => rfl
  | signal =>
    unfold Pool.signal
    split <;> rfl

theorem Advances.rank {i' : Intake} (a : g.Advances i i') (h : g.Proceeds i) :
    i'.rank provider < i.rank provider := by
  cases a with
  | @offers w buffer =>
    cases h with
    | offering unstopped room tracked owed =>
      rw [Pool.owed, buffer, List.map_nil, List.nil_append] at owed
      have calls : callsOwed provider { w with pool :=
          { w.pool with buffer := [g.meeting], tracked := [g.meeting] } } =
            (Job.process g.meeting).calls provider w.backend := by
        simp [callsOwed, Pool.owed, owed]
      simp only [Intake.rank, crewRank, callerRank, calls, buffer, List.length_singleton]
      omega
  | @passes w position e next =>
    obtain ⟨before, _⟩ := List.getElem?_eq_some_iff.mp next
    simp only [Intake.rank, callerRank]
    omega
  | @hears w =>
    cases h with
    | listening unstopped =>
      have crew : crewRank provider (w.act .callStop) = crewRank provider w := rfl
      have stops : (w.act .callStop).pool.stops = [.pending] :=
        congrArg (· ++ [Pool.StopCall.pending]) unstopped.uncalled
      simp only [Intake.rank, callerRank, crew, stops]
      simp [Pool.StopCall.rank]
      omega
  | @stops w q stops =>
    cases h with
    | stopping stopping =>
      obtain ⟨next, after, nearer⟩ := stopping.stops stops
      have calls : q.stops = [next] := after.calls
      simp only [Intake.rank, callerRank, crewRank_stops stops, stopping.calls, calls]
      simpa using nearer
  | @fetches w =>
    cases h with
    | @stopping _ call stopping =>
      have same : ({ w with backend := g.ending } : World) = w := by rw [← stopping.backend]
      have some : 0 < call.rank := by cases call <;> simp [Pool.StopCall.rank]
      simp only [Intake.rank, callerRank, same, stopping.calls]
      simpa using some

/-- A turn in which there is something to do. -/
def IsDue (provider : Provider) (i : Intake) (turn : Turn) : Prop :=
  (i.act provider turn).rank provider < i.rank provider

theorem isDue_ticker {c : Caller} (due : w.pool.ticker = .ticking ∧ w.pool.isSignalled = true) :
    IsDue provider ⟨w, c⟩ .ticker := by
  have ended : w.act .endTicker = { w with pool := { w.pool with ticker := .ended } } := by
    simp [World.act, World.onPool, Pool.endTicker?, due]
  have caller : callerRank provider { w with pool := { w.pool with ticker := .ended } } c =
      callerRank provider w c := by
    cases c <;> rfl
  have owed : callsOwed provider { w with pool := { w.pool with ticker := .ended } } =
      callsOwed provider w := rfl
  simp only [IsDue, Intake.act, ended, Intake.rank, crewRank, caller, owed, due.1, Pool.Ticker.rank]
  omega

/-- A turn brings the end nearer or changes nothing. -/
theorem Proceeds.still_or_due (h : g.Proceeds i) (turn : Turn) :
    i.act provider turn = i ∨ IsDue provider i turn := by
  obtain ⟨w, c⟩ := i
  cases turn with
  | caller => exact h.advances.imp And.left fun advances => advances.rank h
  | worker v deed =>
    rcases steps_act provider w v deed with same | steps
    · exact .inl (congrArg (Intake.mk · c) same)
    · exact .inr (h.rank_steps steps)
  | ticker =>
    by_cases due : w.pool.ticker = .ticking ∧ w.pool.isSignalled = true
    · exact .inr (isDue_ticker due)
    · have same : w.act .endTicker = w := by
        simp only [World.act, Pool.endTicker?, if_neg due]
        rfl
      exact .inl (congrArg (Intake.mk · c) same)

theorem Proceeds.exists_worker {c : Caller} (h : g.Proceeds ⟨w, c⟩) {φ : Phase}
    (stands : w.pool.workers[v]? = some φ) (staying : φ.isOver = false)
    (something : φ = .idle → w.pool.isSignalled = true ∨ w.pool.buffer ≠ []) :
    ∃ turn, IsDue provider ⟨w, c⟩ turn := by
  obtain ⟨deed, steps⟩ := exists_step stands staying something
  exact ⟨.worker v deed, h.rank_steps steps⟩

private theorem exists_due_of_owed {c : Caller} {job : Uuid × Program Job.Outcome}
    (h : g.Proceeds ⟨w, c⟩) (unstopped : g.Unstopped w.pool) (owed : w.pool.owed = [job]) :
    ∃ turn, IsDue provider ⟨w, c⟩ turn := by
  rcases List.append_eq_singleton_iff.mp owed with ⟨_, flight⟩ | ⟨waits, _⟩
  · have busy : job ∈ w.pool.workers.filterMap Phase.inFlight? := by simp [flight]
    obtain ⟨φ, member, flight⟩ := List.mem_filterMap.mp busy
    obtain ⟨v, stands⟩ := List.mem_iff_getElem?.mp member
    cases φ with
    | taken | working | finished | reporting => exact h.exists_worker stands rfl nofun
    | starting | idle | leaving | gone | crashed => cases flight
  · have buffer : w.pool.buffer ≠ [] := by
      rintro empty
      simp [empty] at waits
    have manned : 0 < w.pool.workers.length := unstopped.crew ▸ g.manned
    have stands := List.getElem?_eq_getElem manned
    have present := unstopped.present _ (List.getElem_mem manned)
    refine h.exists_worker stands ?_ fun _ => .inr buffer
    generalize w.pool.workers[0] = φ at present
    cases φ with
    | leaving | gone | crashed => cases present
    | starting | idle | taken | working | finished | reporting => rfl

private theorem exists_due_of_received {position : Nat}
    (h : g.Proceeds ⟨w, .listening g.meeting position⟩)
    (received : w.pool.events.length ≤ position) :
    ∃ turn, IsDue provider ⟨w, .listening g.meeting position⟩ turn := by
  have proceeds := h
  cases proceeds with
  | listening unstopped standing seen news untold =>
    cases standing with
    | underWay owed => exact exists_due_of_owed h unstopped owed
    | told owed backend events =>
      rw [List.take_of_length_le received, events] at untold
      have heard := untold _ (List.mem_append_right _ List.mem_cons_self)
      rw [Event.counts?_ofOutcome] at heard
      cases heard

private theorem exists_due_of_blocked {ending : Except Failure (Nat × Nat)}
    (h : g.Proceeds ⟨w, .stopping g.meeting ending⟩) (unreturned : w.pool.hasReturned 0 = false)
    (blocked : w.pool.stopStep? 0 = none) :
    ∃ turn, IsDue provider ⟨w, .stopping g.meeting ending⟩ turn := by
  have proceeds := h
  cases proceeds with
  | @stopping _ call stopping =>
    have stands : w.pool.stops[0]? = some call := by rw [stopping.calls]; rfl
    cases call with
    | pending =>
      have free : w.pool.stops.any Pool.StopCall.isActive = false := by rw [stopping.calls]; rfl
      simp only [Pool.stopStep?, stands, free] at blocked
      split at blocked <;> cases blocked
    | closed | signalled => simp [Pool.stopStep?, stands] at blocked
    | returned => simp [Pool.hasReturned, stands] at unreturned
    | cancelled => exact (stopping.kept rfl).elim
    | joining handles =>
      have signalled := stopping.signalled rfl
      obtain ⟨handle, _, waits⟩ : ∃ handle ∈ handles, w.pool.isOver handle = false := by
        simpa [Pool.stopStep?, stands] using blocked
      cases handle with
      | ticker =>
        refine ⟨.ticker, isDue_ticker ⟨?_, signalled⟩⟩
        simpa [Pool.isOver] using waits
      | worker v =>
        cases stands : w.pool.workers[v]? with
        | none => simp [Pool.isOver, stands] at waits
        | some φ =>
          simp only [Pool.isOver, stands, Option.map_some, Option.getD_some] at waits
          exact h.exists_worker stands waits fun _ => .inl signalled

/-- As long as the caller has not returned there is something to do for somebody. -/
theorem Proceeds.exists_due (h : g.Proceeds i) (waiting : ∀ result, i.caller ≠ .returned result) :
    ∃ turn, IsDue provider i turn := by
  rcases h.advances with ⟨_, waits⟩ | advances
  · cases waits with
    | listening received => exact exists_due_of_received h received
    | stopping unreturned blocked => exact exists_due_of_blocked h unreturned blocked
    | returned => exact (waiting _ rfl).elim
  · exact ⟨.caller, advances.rank h⟩

private theorem Proceeds.rank_after_le (h : g.Proceeds i) (schedule : Nat → Turn) (n : Nat) :
    (i.after provider schedule n).rank provider ≤ i.rank provider := by
  induction n with
  | zero => exact Nat.le_refl _
  | succ n ih =>
    rcases (h.after schedule n).still_or_due (schedule n) with still | due
    · rwa [Intake.after, still]
    · exact Nat.le_trans (Nat.le_of_lt due) ih

private theorem Proceeds.exists_nearer (h : g.Proceeds i) {schedule : Nat → Turn}
    (lively : Lively provider i schedule) (waiting : ∀ result, i.caller ≠ .returned result) :
    ∃ m, (i.after provider schedule m).rank provider < i.rank provider := by
  obtain ⟨turn, due⟩ := h.exists_due waiting
  obtain ⟨m, _, moves⟩ := lively 0 ⟨turn, fun same => (Nat.ne_of_lt due) (congrArg _ same)⟩
  have now := (h.after schedule m).still_or_due (schedule m)
  exact ⟨m + 1, Nat.lt_of_lt_of_le (now.resolve_left moves) (h.rank_after_le schedule m)⟩

/-- The caller returns, in whatever order things are done, as long as they are done. -/
theorem Proceeds.returns (h : g.Proceeds i) {schedule : Nat → Turn}
    (lively : Lively provider i schedule) :
    ∃ n result, (i.after provider schedule n).caller = .returned result := by
  induction near : i.rank provider using Nat.strongRecOn generalizing i schedule with
  | ind k ih =>
    by_cases returned : ∃ result, i.caller = .returned result
    · exact ⟨0, returned⟩
    · obtain ⟨m, nearer⟩ := h.exists_nearer lively (not_exists.mp returned)
      obtain ⟨n, result, returns⟩ :=
        ih _ (near ▸ nearer) (h.after schedule m) (lively.later m) rfl
      exact ⟨m + n, result, by rw [Intake.after_add, returns]⟩

end Prospect

end Ingest

end MeetingInsights
