import MeetingInsights.Proofs.Shutdown

/-! # What a returned stop leaves behind

A call to stop waits for the workers that it finds in the list of handles, and takes them off it. So
the workers are at rest when a call returns, provided that no call that waits for them has been
dropped and that no workers have been spawned behind its back.
-/

namespace MeetingInsights.Pool

variable {w : World} {a : Action} {p q : Pool} {v k : Nat} {φ ψ : Phase} {id : Uuid}

private theorem over_act (stands : w.pool.workers[v]? = some φ) (atEnd : φ.isOver = true)
    (a : Action) : (w.act a).pool.workers[v]? = some φ := by
  obtain ⟨_, _, _, serves⟩ := World.serves_some w a
  obtain ⟨hv, _⟩ := List.getElem?_eq_some_iff.mp stands
  cases serves with
  | rest _ workers | accept _ workers | drop _ workers => rw [workers, stands]
  | spawn _ workers => rw [workers, List.getElem?_append_left hv, stands]
  | @dequeue _ u _ idle _ workers =>
    have other : u ≠ v := by
      rintro rfl
      obtain rfl := Option.some.inj (stands.symm.trans idle)
      cases atEnd
    rw [workers, List.getElem?_set_ne other, stands]
  | @shift _ u χ ψ es stands' shifts _ workers =>
    have other : u ≠ v := by
      rintro rfl
      obtain rfl := Option.some.inj (stands.symm.trans stands')
      cases shifts <;> cases atEnd
    rw [workers, List.getElem?_set_ne other, stands]

private theorem unfinished_of_act (stands : (w.act a).pool.workers[v]? = some ψ)
    (unfinished : ψ.isOver = false) :
    (∃ φ, w.pool.workers[v]? = some φ ∧ φ.isOver = false) ∨ w.pool.workers.length ≤ v := by
  rcases Nat.lt_or_ge v w.pool.workers.length with hv | late
  · left
    have before := List.getElem?_eq_getElem hv
    cases atEnd : (w.pool.workers[v]).isOver with
    | false => exact ⟨_, before, atEnd⟩
    | true =>
      obtain rfl := Option.some.inj (stands.symm.trans (over_act before atEnd a))
      rw [atEnd] at unfinished
      cases unfinished
  · exact .inr late

def StopCall.isWaiting : StopCall → Bool
  | .joining _ => true
  | _ => false

def waitsFor (p : Pool) (k : Nat) : List Handle :=
  match p.stops[k]? with
  | some (.joining handles) => handles
  | _ => []

/-- An action at which no call to stop is dropped while it waits for workers, and no workers are
spawned once a call waits or has completed. -/
def World.Awaits (w : World) : Action → Prop
  | .cancelStop k => ∀ handle ∈ w.pool.waitsFor k, w.pool.isOver handle = true
  | .spawn => w.start = .cleared →
      w.pool.isStopped = false ∧ ∀ call ∈ w.pool.stops, call.isWaiting = false
  | _ => True

instance (w : World) (a : Action) : Decidable (w.Awaits a) :=
  match a with
  | .cancelStop k => inferInstanceAs (Decidable (∀ handle ∈ w.pool.waitsFor k, _))
  | .spawn => inferInstanceAs (Decidable (w.start = .cleared → _ ∧ _))
  | .enqueue _ | .markStart | .testStart | .announce _ | .take _ | .takeLate _ | .startJob _
  | .work .. | .crash _ | .untrack _ | .report _ | .leave _ | .endTicker | .callStop | .stopStep _
  | .elsewhere _ => isTrue trivial

/-- Every worker that has not ended is waited for, or will be: it is among the handles for the next
call or among those of the call that waits. -/
structure Joined (p : Pool) : Prop where
  awaited : ∀ v φ, p.workers[v]? = some φ → φ.isOver = false →
    .worker v ∈ p.handles ∨ ∃ handles, .joining handles ∈ p.stops ∧ .worker v ∈ handles
  alone : ∀ (k k' : Nat) call call', p.stops[k]? = some call → p.stops[k']? = some call' →
    call.isActive = true → call'.isActive = true → k = k'
  drained : ∀ handles, .joining handles ∈ p.stops → p.handles = []
  stopped : p.isStopped = true → ∀ φ ∈ p.workers, φ.isOver = true
  returned : .returned ∈ p.stops → p.isStopped = true

theorem joined_new (settings : Settings) : Joined (.new settings) where
  awaited := nofun
  alone := nofun
  drained := nofun
  stopped := nofun
  returned := nofun

theorem isOver_worker (stands : p.workers[v]? = some φ) : p.isOver (.worker v) = φ.isOver := by
  simp [isOver, stands]

theorem mem_set_of_ne {α : Type} {l : List α} {k : Nat} {old new x : α} (stands : l[k]? = some old)
    (hx : x ∈ l) (other : x ≠ old) : x ∈ l.set k new := by
  obtain ⟨j, hj, rfl⟩ := List.getElem_of_mem hx
  have apart : k ≠ j := by
    rintro rfl
    exact other (Option.some.inj ((List.getElem?_eq_getElem hj).symm.trans stands))
  refine List.mem_of_getElem? (i := j) ?_
  rw [List.getElem?_set_ne apart, List.getElem?_eq_getElem hj]

theorem Joined.alone_set (h : Joined p) {old call : StopCall} (stands : p.stops[k]? = some old)
    (active : call.isActive = true → old.isActive = true ∨ ∀ c ∈ p.stops, c.isActive = false)
    {i j : Nat} {c c' : StopCall} (hi : (p.stops.set k call)[i]? = some c)
    (hj : (p.stops.set k call)[j]? = some c') (hc : c.isActive = true) (hc' : c'.isActive = true) :
    i = j := by
  obtain ⟨hk, _⟩ := List.getElem?_eq_some_iff.mp stands
  have others : ∀ {j : Nat} {c' : StopCall}, j ≠ k → (p.stops.set k call)[j]? = some c' →
      c'.isActive = true → call.isActive = true → False := by
    intro j c' hne hj hc' hcall
    rw [List.getElem?_set_ne hne.symm] at hj
    rcases active hcall with was | free
    · exact hne (h.alone j k c' old hj stands hc' was)
    · rw [free c' (List.mem_of_getElem? hj)] at hc'
      cases hc'
  by_cases hik : i = k
  · by_cases hjk : j = k
    · rw [hik, hjk]
    · rw [hik, List.getElem?_set_self hk] at hi
      obtain rfl := Option.some.inj hi
      exact (others hjk hj hc' hc).elim
  · by_cases hjk : j = k
    · rw [hjk, List.getElem?_set_self hk] at hj
      obtain rfl := Option.some.inj hj
      exact (others hik hi hc hc').elim
    · rw [List.getElem?_set_ne (Ne.symm hik)] at hi
      rw [List.getElem?_set_ne (Ne.symm hjk)] at hj
      exact h.alone i j c c' hi hj hc hc'

theorem Joined.setStop (h : Joined p) {old call : StopCall} (stands : p.stops[k]? = some old)
    (ended : ∀ handles, old = .joining handles → ∀ handle ∈ handles, p.isOver handle = true)
    (other : ∀ handles, call ≠ .joining handles)
    (active : call.isActive = true → old.isActive = true ∨ ∀ c ∈ p.stops, c.isActive = false)
    (stopped : call = .returned → p.isStopped = true) : Joined (p.setStop k call) where
  awaited v φ hv unfinished := by
    rcases h.awaited v φ hv unfinished with waits | ⟨handles, joining, waits⟩
    · exact .inl waits
    · by_cases same : StopCall.joining handles = old
      · have atEnd := ended handles same.symm _ waits
        rw [isOver_worker (p := p) hv, unfinished] at atEnd
        cases atEnd
      · exact .inr ⟨handles, mem_set_of_ne stands joining same, waits⟩
  alone _ _ _ _ := h.alone_set stands active
  drained handles joining := by
    rcases List.mem_or_eq_of_mem_set joining with old | new
    · exact h.drained handles old
    · exact (other handles new.symm).elim
  stopped := h.stopped
  returned hreturned := by
    rcases List.mem_or_eq_of_mem_set hreturned with old | new
    · exact h.returned old
    · exact stopped new.symm

theorem Joined.await (h : Joined p) (stands : p.stops[k]? = some .signalled) :
    Joined ({ p with handles := [] }.setStop k (.joining p.handles)) where
  awaited v φ hv unfinished := by
    obtain ⟨hk, _⟩ := List.getElem?_eq_some_iff.mp stands
    right
    rcases h.awaited v φ hv unfinished with waits | ⟨handles, joining, waits⟩
    · exact ⟨p.handles, List.mem_set hk _, waits⟩
    · exact ⟨handles, mem_set_of_ne stands joining nofun, waits⟩
  alone _ _ _ _ := h.alone_set stands fun _ => .inl rfl
  drained _ _ := rfl
  stopped := h.stopped
  returned hreturned := by
    rcases List.mem_or_eq_of_mem_set hreturned with old | new
    · exact h.returned old
    · cases new

/-- When a call has waited for its handles, all workers have ended. -/
theorem Joined.atEnd (h : Joined p) {handles : List Handle}
    (stands : p.stops[k]? = some (.joining handles))
    (ended : ∀ handle ∈ handles, p.isOver handle = true) : ∀ φ ∈ p.workers, φ.isOver = true := by
  intro φ hφ
  obtain ⟨v, hv⟩ := List.mem_iff_getElem?.mp hφ
  by_contra unfinished
  rw [Bool.not_eq_true] at unfinished
  rcases h.awaited v φ hv unfinished with waits | ⟨others, joining, waits⟩
  · rw [h.drained handles (List.mem_of_getElem? stands)] at waits
    cases waits
  · obtain ⟨k', hk'⟩ := List.mem_iff_getElem?.mp joining
    obtain rfl := h.alone k k' _ _ stands hk' rfl rfl
    obtain rfl := StopCall.joining.inj (Option.some.inj (stands.symm.trans hk'))
    have atEnd := ended _ waits
    rw [isOver_worker hv, unfinished] at atEnd
    cases atEnd

theorem Joined.finish (h : Joined p) (atEnd : ∀ φ ∈ p.workers, φ.isOver = true) :
    Joined { p with isStopped := true } where
  awaited := h.awaited
  alone := h.alone
  drained := h.drained
  stopped _ := atEnd
  returned _ := rfl

theorem Joined.signal (h : Joined p) : Joined p.signal := by
  unfold Pool.signal
  split
  · exact h
  · exact ⟨h.awaited, h.alone, h.drained, h.stopped, h.returned⟩

theorem Joined.stops (h : Joined p) (stops : Stops p k q) : Joined q := by
  cases stops with
  | join stands stopped => exact h.setStop stands nofun nofun nofun fun _ => stopped
  | close stands unstopped free =>
    have closed : Joined p.close := ⟨h.awaited, h.alone, h.drained, h.stopped, h.returned⟩
    exact closed.setStop stands nofun nofun (fun _ => .inr free) nofun
  | signal stands =>
    have same : p.signal.stops = p.stops := by
      unfold Pool.signal
      split <;> rfl
    rw [← same] at stands
    exact h.signal.setStop stands nofun nofun (fun _ => .inl rfl) nofun
  | await stands => exact h.await stands
  | finish stands ended =>
    refine (h.finish (h.atEnd stands ended)).setStop stands (fun handles same => ?_) nofun nofun
      fun _ => rfl
    cases same
    exact ended

theorem Joined.callStop (h : Joined p) : Joined { p with stops := p.stops ++ [.pending] } where
  awaited v φ hv unfinished := (h.awaited v φ hv unfinished).imp_right fun ⟨handles, joining, waits⟩ =>
    ⟨handles, List.mem_append_left _ joining, waits⟩
  alone := by
    have early : ∀ {k : Nat} {call : StopCall}, (p.stops ++ [.pending])[k]? = some call →
        call.isActive = true → p.stops[k]? = some call := by
      intro k call hk active
      rw [List.getElem?_append] at hk
      split at hk
      · exact hk
      · rw [List.mem_singleton.mp (List.mem_of_getElem? hk)] at active
        cases active
    exact fun k k' call call' hk hk' active active' =>
      h.alone k k' call call' (early hk active) (early hk' active') active active'
  drained handles joining := by
    rcases List.mem_append.mp joining with old | new
    · exact h.drained handles old
    · cases List.mem_singleton.mp new
  stopped := h.stopped
  returned hreturned := by
    rcases List.mem_append.mp hreturned with old | new
    · exact h.returned old
    · cases List.mem_singleton.mp new

theorem Joined.spawn (h : Joined p) (running : p.isStopped = false)
    (idle : ∀ call ∈ p.stops, call.isWaiting = false) : Joined p.spawn where
  awaited v φ hv unfinished := by
    left
    change .worker v ∈ p.handles ++ (List.range _).map _ ++ _
    rcases Nat.lt_or_ge v p.workers.length with early | late
    · have before : p.workers[v]? = some φ := by
        rw [← List.getElem?_append_left early]
        exact hv
      rcases h.awaited v φ before unfinished with waits | ⟨handles, joining, _⟩
      · simp [waits]
      · cases idle _ joining
    · obtain ⟨i, rfl⟩ := Nat.exists_eq_add_of_le late
      obtain ⟨hlt, _⟩ := List.getElem?_eq_some_iff.mp hv
      have fresh : i < p.settings.workerCount := by
        simpa [Pool.spawn] using hlt
      simp [fresh]
  alone := h.alone
  drained _ joining := nomatch idle _ joining
  stopped stopped := by
    rw [show p.spawn.isStopped = p.isStopped from rfl, running] at stopped
    cases stopped
  returned := h.returned

private theorem joined_act_of_plain (h : Joined w.pool) (plain : a.isControl = false) :
    Joined (w.act a).pool := by
  have control := (sameControl_act (w := w) plain).control
  have stops : (w.act a).pool.stops = w.pool.stops := congrArg Control.stops control
  have isStopped : (w.act a).pool.isStopped = w.pool.isStopped := congrArg Control.isStopped control
  have size : (w.act a).pool.workers.length = w.pool.workers.length := congrArg Control.size control
  have before : ∀ {v : Nat} {ψ : Phase}, (w.act a).pool.workers[v]? = some ψ → ψ.isOver = false →
      ∃ φ : Phase, w.pool.workers[v]? = some φ ∧ φ.isOver = false := by
    intro v ψ stands unfinished
    obtain ⟨hv, _⟩ := List.getElem?_eq_some_iff.mp stands
    rw [size] at hv
    exact (unfinished_of_act stands unfinished).resolve_right (Nat.not_le_of_lt hv)
  constructor
  case awaited =>
    intro v ψ stands unfinished
    obtain ⟨φ, stands', unfinished'⟩ := before stands unfinished
    rw [(sameControl_act plain).handles, stops]
    exact h.awaited v φ stands' unfinished'
  case alone =>
    rw [stops]
    exact h.alone
  case drained =>
    rw [(sameControl_act plain).handles, stops]
    exact h.drained
  case stopped =>
    intro stopped ψ hψ
    obtain ⟨v, stands⟩ := List.mem_iff_getElem?.mp hψ
    by_contra unfinished
    rw [Bool.not_eq_true] at unfinished
    obtain ⟨φ, stands', unfinished'⟩ := before stands unfinished
    rw [h.stopped (isStopped.symm.trans stopped) φ (List.mem_of_getElem? stands')] at unfinished'
    cases unfinished'
  case returned =>
    rw [stops, isStopped]
    exact h.returned

theorem joined_act (h : Joined w.pool) (awaits : w.Awaits a) : Joined (w.act a).pool := by
  cases plain : a.isControl with
  | false => exact joined_act_of_plain h plain
  | true =>
    have controls : Controls w a (w.act a) := controls_act plain
    generalize w.act a = w' at controls
    cases controls with
    | rest | test => exact h
    | mark => exact ⟨h.awaited, h.alone, h.drained, h.stopped, h.returned⟩
    | spawn cleared => exact h.spawn (awaits cleared).1 (awaits cleared).2
    | call => exact h.callStop
    | stop stops => exact h.stops stops
    | @cancel k call stands =>
      refine h.setStop stands (fun handles same => ?_) nofun nofun nofun
      have known : w.pool.waitsFor k = handles := by rw [waitsFor, stands, same]
      exact known ▸ awaits

theorem Stops.isStopped (h : Stops p k q) (stopped : p.isStopped = true) : q.isStopped = true := by
  cases h with
  | join | close | await => exact stopped
  | finish => rfl
  | signal =>
    unfold Pool.signal
    split <;> exact stopped

private theorem stopped_act (stopped : w.pool.isStopped = true)
    (unspawned : a = .spawn → w.start ≠ .cleared) :
    (w.act a).pool.isStopped = true ∧ (w.act a).pool.workers.length = w.pool.workers.length := by
  cases plain : a.isControl with
  | false =>
    have control := (sameControl_act (w := w) plain).control
    exact ⟨(congrArg Control.isStopped control).trans stopped, congrArg Control.size control⟩
  | true =>
    have controls : Controls w a (w.act a) := controls_act plain
    generalize w.act a = w' at controls
    cases controls with
    | rest | mark | test | call | cancel => exact ⟨stopped, rfl⟩
    | spawn cleared => exact (unspawned rfl cleared).elim
    | stop stops => exact ⟨stops.isStopped stopped, congrArg List.length stops.workers⟩

theorem Serves.rests {accepted dropped dequeued : Option Uuid}
    (serves : Serves p a accepted dropped dequeued q)
    (atEnd : ∀ φ ∈ p.workers, φ.isOver = true) (size : q.workers.length = p.workers.length) :
    q.workers = p.workers ∧ dequeued = none ∧
      ∃ es, q.events = p.events ++ es ∧ ∀ e ∈ es, ∀ id, e.starts id = false := by
  cases serves with
  | rest _ workers events | accept _ workers events =>
    exact ⟨workers, rfl, [], events.trans (List.append_nil _).symm, nofun⟩
  | drop _ workers events =>
    refine ⟨workers, rfl, _, events, fun e he id => ?_⟩
    obtain rfl := List.mem_singleton.mp he
    rfl
  | dequeue stands => cases atEnd _ (List.mem_of_getElem? stands)
  | @spawn _ n _ workers events =>
    have none : n = 0 := by simpa [workers] using size
    subst none
    exact ⟨workers.trans (List.append_nil _), rfl, [], events.trans (List.append_nil _).symm, nofun⟩
  | shift stands shifts =>
    have ended := atEnd _ (List.mem_of_getElem? stands)
    cases shifts <;> cases ended

/-- What is known after some actions of a pool whose workers are at rest. -/
structure Resting (w : World) (actions : List Action) : Prop where
  atEnd : ∀ φ ∈ (w.run actions).pool.workers, φ.isOver = true
  workers : (w.run actions).pool.workers = w.pool.workers
  dequeued : w.notes World.dequeued? actions = []
  since : ∃ since, (w.run actions).pool.events = w.pool.events ++ since ∧
    ∀ e ∈ since, ∀ id, e.starts id = false

private theorem resting_of_stopped {actions : List Action} (joined : Joined w.pool)
    (stopped : w.pool.isStopped = true) (awaits : w.Along World.Awaits actions) :
    Resting w actions := by
  induction actions generalizing w with
  | nil => exact ⟨joined.stopped stopped, rfl, rfl, [], (List.append_nil _).symm, nofun⟩
  | cons a actions ih =>
    obtain ⟨now, later⟩ := awaits
    have unspawned : a = .spawn → w.start ≠ .cleared := by
      rintro rfl cleared
      have running := (now cleared).1
      rw [stopped] at running
      cases running
    obtain ⟨stopped', size⟩ := stopped_act stopped unspawned
    obtain ⟨workers, dequeued, es, events, unstarted⟩ :=
      (World.serves_act w a).rests (joined.stopped stopped) size
    have rest := ih (joined_act joined now) stopped' later
    obtain ⟨since, events', unstarted'⟩ := rest.since
    constructor
    case atEnd => exact rest.atEnd
    case workers => exact rest.workers.trans workers
    case dequeued =>
      rw [World.notes, dequeued]
      exact rest.dequeued
    case since =>
      refine ⟨es ++ since, ?_, List.forall_mem_append.mpr ⟨unstarted, unstarted'⟩⟩
      change ((w.act a).run actions).pool.events = _
      rw [events', events, List.append_assoc]

theorem joined_run {actions : List Action} (h : Joined w.pool)
    (awaits : w.Along World.Awaits actions) : Joined (w.run actions).pool :=
  World.run_along (J := fun w => Joined w.pool) h joined_act awaits

/-- Whatever happens in whatever order: once a call to stop has returned, all workers have ended and
no job is started any more, if no call is dropped that waits for workers and no workers are spawned
once a call waits or has returned. -/
theorem resting_of_returned (settings : Settings) (b : Backend) (before after : List Action)
    (awaits : (World.opened settings b).Along World.Awaits (before ++ after))
    (returned : .returned ∈ ((World.opened settings b).run before).pool.stops) :
    Resting ((World.opened settings b).run before) after := by
  obtain ⟨early, late⟩ := World.along_append.mp awaits
  have joined : Joined ((World.opened settings b).run before).pool :=
    joined_run (joined_new settings) early
  exact resting_of_stopped joined (joined.returned returned) late

/-- Calls to stop that are not dropped wait for all workers, as long as the first start of the pool is
kept apart from its being stopped. -/
theorem awaits_of_apart {actions : List Action} (gated : Gated w.control)
    (apart : w.Along World.KeepsApart actions) (undropped : ∀ k, .cancelStop k ∉ actions) :
    w.Along World.Awaits actions := by
  induction actions generalizing w with
  | nil => trivial
  | cons a actions ih =>
    refine ⟨?_, ih (gated_act gated apart.1) apart.2 fun k hk => undropped k (.tail a hk)⟩
    cases a with
    | cancelStop k => exact (undropped k (.head actions)).elim
    | spawn =>
      intro cleared
      have isOpen : w.pool.isOpen = true := gated.cleared cleared
      constructor
      · by_contra stopped
        have closed := gated.stopped (Bool.not_eq_false _ ▸ stopped)
        rw [show w.control.isOpen = true from isOpen] at closed
        cases closed
      · intro call hcall
        by_contra waiting
        have active : call.isActive = true := by
          cases call with
          | joining => rfl
          | pending | closed | signalled | returned | cancelled => exact (waiting rfl).elim
        have closed := gated.active call hcall active
        rw [show w.control.isOpen = true from isOpen] at closed
        cases closed
    | enqueue | markStart | testStart | announce | take | takeLate | startJob | work | crash | untrack
    | report | leave | endTicker | callStop | stopStep | elsewhere => trivial

/-- One worker has done its job and has been waited for, and another meeting has been left behind. -/
def stoppedAfterJob : List Action :=
  stoppedInJob ++ [.stopStep 0] ++ List.replicate 3 (.work 0 fun _ _ => .ok []) ++
    [.untrack 0, .report 0, .take 0, .leave 0, .endTicker, .stopStep 0]

theorem stoppedAfterJob_rests :
    ((World.opened ⟨1, 2, 1⟩ .oneQueued).run stoppedAfterJob).notes World.dequeued?
      [.callStop, .stopStep 1, .markStart, .testStart, .spawn, .take 0] = [] := by
  have awaits : (World.opened ⟨1, 2, 1⟩ .oneQueued).Along World.Awaits
      (stoppedAfterJob ++ [.callStop, .stopStep 1, .markStart, .testStart, .spawn, .take 0]) :=
    awaits_of_apart (gated_opened ⟨1, 2, 1⟩ .oneQueued) (by decide +kernel)
      (by simp [stoppedAfterJob, stoppedInJob])
  have rests := resting_of_returned ⟨1, 2, 1⟩ .oneQueued stoppedAfterJob
    [.callStop, .stopStep 1, .markStart, .testStart, .spawn, .take 0] awaits (by decide +kernel)
  exact rests.dequeued

/-- A worker is at its job when the call that waits for it is dropped, and the next one returns. -/
def stoppedTwiceInJob : List Action :=
  stoppedInJob ++ [.stopStep 0, .cancelStop 0, .callStop, .stopStep 1, .stopStep 1, .stopStep 1,
    .stopStep 1]

/-- The pool is found neither stopped nor signalled before a call stops it. -/
def stoppedInStart : List Action :=
  [.enqueue ⟨1⟩, .markStart, .testStart, .callStop, .stopStep 0, .stopStep 0, .stopStep 0,
    .stopStep 0]

/-- A worker may be at its job although a call to stop has returned, when another call has been
dropped, and jobs may be started after that, when a start has been under way. -/
theorem not_all_returned_stops_rest :
    (¬ ∀ (settings : Settings) (b : Backend) (before : List Action),
      (World.opened settings b).Along World.KeepsApart before →
      .returned ∈ ((World.opened settings b).run before).pool.stops →
      ∀ φ ∈ ((World.opened settings b).run before).pool.workers, φ.isOver = true) ∧
    ¬ ∀ (settings : Settings) (b : Backend) (before after : List Action),
      (∀ k, .cancelStop k ∉ before ++ after) →
      .returned ∈ ((World.opened settings b).run before).pool.stops →
      ∀ id, ((World.opened settings b).run (before ++ after)).pool.events.countP
          (Event.starts id) =
        ((World.opened settings b).run before).pool.events.countP (Event.starts id) := by
  constructor
  · intro h
    have atEnd := h ⟨1, 2, 1⟩ .oneQueued stoppedTwiceInJob (by decide +kernel) (by decide +kernel)
    revert atEnd
    decide +kernel
  · intro h
    have unstarted := h ⟨1, 1, 1⟩ .oneQueued stoppedInStart
      [.spawn, .announce 0, .take 0, .startJob 0] (fun k => by simp [stoppedInStart])
      (by decide +kernel) ⟨1⟩
    revert unstarted
    decide +kernel

end MeetingInsights.Pool
