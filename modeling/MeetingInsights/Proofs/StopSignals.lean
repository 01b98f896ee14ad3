import MeetingInsights.Proofs.JobAccounts

/-! # The calls to start and to stop a pool

What these calls do to a pool apart from its queue and its jobs. A pool whose start is not under way
when it is closed stays closed and signalled once it has been signalled, and gets no workers any more.
-/

namespace MeetingInsights.Pool

namespace World

variable {w : World} {admits : World → Action → Prop}

/-- Every action is admitted in the world in which it comes. -/
def Along (admits : World → Action → Prop) (w : World) : List Action → Prop
  | [] => True
  | a :: actions => admits w a ∧ (w.act a).Along admits actions

theorem run_append (w : World) (before after : List Action) :
    w.run (before ++ after) = (w.run before).run after := List.foldl_append

theorem along_append {before after : List Action} :
    w.Along admits (before ++ after) ↔
      w.Along admits before ∧ (w.run before).Along admits after := by
  induction before generalizing w with
  | nil => exact ⟨fun h => ⟨trivial, h⟩, And.right⟩
  | cons a before ih =>
    simp only [List.cons_append, Along, ih, and_assoc]
    exact Iff.rfl

theorem Along.and {admits' : World → Action → Prop} {actions : List Action}
    (h : w.Along admits actions) (h' : w.Along admits' actions) :
    w.Along (fun w a => admits w a ∧ admits' w a) actions := by
  induction actions generalizing w with
  | nil => trivial
  | cons a actions ih => exact ⟨⟨h.1, h'.1⟩, ih h.2 h'.2⟩

instance [∀ w a, Decidable (admits w a)] (w : World) (actions : List Action) :
    Decidable (w.Along admits actions) :=
  decidableAlong w actions
where
  decidableAlong (w : World) : (actions : List Action) → Decidable (w.Along admits actions)
    | [] => isTrue trivial
    | a :: actions =>
      have := decidableAlong (w.act a) actions
      inferInstanceAs (Decidable (admits w a ∧ (w.act a).Along admits actions))

/-- What every admitted action keeps holds after a run of them. -/
theorem run_along {J : World → Prop} {actions : List Action} (initial : J w)
    (keep : ∀ {w a}, J w → admits w a → J (w.act a)) (along : w.Along admits actions) :
    J (w.run actions) := by
  induction actions generalizing w with
  | nil => exact initial
  | cons a actions ih => exact ih (keep initial along.1) along.2

end World

/-- What calls to start and to stop a pool look at. -/
structure Control where
  isOpen : Bool
  isSignalled : Bool
  isStarted : Bool
  isStopped : Bool
  stops : List StopCall
  start : StartCall
  size : Nat

def World.control (w : World) : Control where
  isOpen := w.pool.isOpen
  isSignalled := w.pool.isSignalled
  isStarted := w.pool.isStarted
  isStopped := w.pool.isStopped
  stops := w.pool.stops
  start := w.start
  size := w.pool.workers.length

def Action.isControl : Action → Bool
  | .markStart | .testStart | .spawn | .callStop | .stopStep _ | .cancelStop _ => true
  | _ => false

variable {w : World} {a : Action} {p q : Pool}

/-- Between two worlds there is no difference for those who start and stop the pool. -/
structure World.SameControl (w w' : World) : Prop where
  control : w'.control = w.control
  handles : w'.pool.handles = w.pool.handles

theorem sameControl_onPool {p? : Option Pool}
    (h : ∀ q, p? = some q → w.SameControl { w with pool := q }) :
    w.SameControl (w.onPool p?) := by
  cases p? with
  | none => exact ⟨rfl, rfl⟩
  | some q => exact h q rfl

theorem sameControl_moved (v : Nat) (φ : Phase) (events : List Event) :
    w.SameControl { w with pool := w.pool.moved v φ events } :=
  ⟨by simp [World.control, moved, setPhase], rfl⟩

theorem sameControl_turn {v : Nat} (h : Turns w.pool v q) :
    w.SameControl { w with pool := q } := by
  cases h with
  | withdraws => exact sameControl_moved v _ _
  | takes => exact ⟨by simp [World.control, moved, setPhase], rfl⟩

private theorem sameControl_work (v : Nat) (provider : Provider) :
    w.SameControl (w.act (.work v provider)) := by
  simp only [World.act, work?]
  cases hv : w.pool.workers[v]? with
  | none => exact ⟨rfl, rfl⟩
  | some φ =>
    cases φ with
    | working id job => cases job <;> exact ⟨by simp [World.control, setPhase], rfl⟩
    | starting | idle | taken | finished | reporting | leaving | gone | crashed =>
      exact ⟨rfl, rfl⟩

private theorem sameControl_crash (v : Nat) : w.SameControl (w.act (.crash v)) := by
  have same : w.SameControl (w.onPool (w.pool.crash? v)) := by
    refine sameControl_onPool fun q hq => ?_
    simp only [crash?] at hq
    split at hq
    · cases hq
      exact ⟨by simp [World.control, setPhase], rfl⟩
    · cases hq
  simp only [World.act]
  split
  · exact ⟨same.control, same.handles⟩
  · exact ⟨rfl, rfl⟩

theorem sameControl_act (h : a.isControl = false) : w.SameControl (w.act a) := by
  cases a with
  | markStart | testStart | spawn | callStop | stopStep | cancelStop => cases h
  | enqueue id =>
    rcases enqueue_cases w.pool id with ⟨_, hp⟩ | ⟨_, hp⟩ | ⟨_, _, hp⟩ <;>
      exact ⟨by simp [World.control, World.act, hp, emit], by simp [World.act, hp, emit]⟩
  | announce v =>
    refine sameControl_onPool fun q hq => ?_
    obtain ⟨_, rfl⟩ := announce?_eq_some hq
    exact sameControl_moved v _ _
  | take v => exact sameControl_onPool fun q hq => sameControl_turn (takeNext?_eq_some hq)
  | takeLate v => exact sameControl_onPool fun q hq => sameControl_turn (takeLate?_eq_some hq)
  | startJob v =>
    refine sameControl_onPool fun q hq => ?_
    obtain ⟨_, _, rfl⟩ := startJob?_eq_some hq
    exact sameControl_moved v _ _
  | work v provider => exact sameControl_work v provider
  | crash v => exact sameControl_crash v
  | untrack v =>
    refine sameControl_onPool fun q hq => ?_
    obtain ⟨_, _, _, rfl⟩ := untrack?_eq_some hq
    exact ⟨by simp [World.control, moved, setPhase], rfl⟩
  | report v =>
    refine sameControl_onPool fun q hq => ?_
    obtain ⟨_, _, _, rfl⟩ := report?_eq_some hq
    exact sameControl_moved v _ _
  | leave v =>
    refine sameControl_onPool fun q hq => ?_
    obtain ⟨_, rfl⟩ := leave?_eq_some hq
    exact sameControl_moved v _ _
  | endTicker =>
    refine sameControl_onPool fun q hq => ?_
    simp only [endTicker?] at hq
    split at hq
    · cases hq
      exact ⟨rfl, rfl⟩
    · cases hq
  | elsewhere b => exact ⟨rfl, rfl⟩

/-- What a call to stop does in its next step. -/
inductive Stops (p : Pool) (k : Nat) : Pool → Prop where
  | join (stands : p.stops[k]? = some .pending) (stopped : p.isStopped = true) :
      Stops p k (p.setStop k .returned)
  | close (stands : p.stops[k]? = some .pending) (unstopped : p.isStopped = false)
      (free : ∀ call ∈ p.stops, call.isActive = false) : Stops p k (p.close.setStop k .closed)
  | signal (stands : p.stops[k]? = some .closed) : Stops p k (p.signal.setStop k .signalled)
  | await (stands : p.stops[k]? = some .signalled) :
      Stops p k ({ p with handles := [] }.setStop k (.joining p.handles))
  | finish {handles} (stands : p.stops[k]? = some (.joining handles))
      (ended : ∀ handle ∈ handles, p.isOver handle = true) :
      Stops p k ({ p with isStopped := true }.setStop k .returned)

theorem stopStep?_stops {k : Nat} (h : p.stopStep? k = some q) : Stops p k q := by
  unfold stopStep? at h
  split at h
  · rename_i stands
    split at h
    · cases h
      exact .join stands (by assumption)
    · rename_i unstopped
      split at h
      · cases h
      · rename_i free
        cases h
        exact .close stands (by simpa using unstopped) (by simpa using free)
  · cases h
    exact .signal (by assumption)
  · cases h
    exact .await (by assumption)
  · split at h
    · rename_i ended
      cases h
      exact .finish (by assumption) (List.all_eq_true.mp ended)
    · cases h
  · cases h

theorem Stops.workers {k : Nat} (h : Stops p k q) : q.workers = p.workers := by
  cases h with
  | join | close | await | finish => rfl
  | signal =>
    unfold Pool.signal
    split <;> rfl

theorem cancelStop?_eq_setStop {k : Nat} (h : p.cancelStop? k = some q) :
    q = p.setStop k .cancelled := by
  unfold cancelStop? at h
  split at h
  · cases h
  · cases h
  · cases h
  · cases h
    rfl

/-- What an action of those who start and stop a pool does. One that is not due does nothing. -/
inductive Controls (w : World) : Action → World → Prop where
  | rest {a : Action} : Controls w a w
  | mark {start : StartCall} : Controls w .markStart { w with pool := { w.pool with isStarted := true }, start }
  | test {start : StartCall} (marked : w.start = .marked) : Controls w .testStart { w with start }
  | spawn (cleared : w.start = .cleared) :
      Controls w .spawn { w with pool := w.pool.spawn, start := .absent }
  | call : Controls w .callStop
      { w with pool := { w.pool with stops := w.pool.stops ++ [.pending] } }
  | stop {k : Nat} {q : Pool} (stops : Stops w.pool k q) : Controls w (.stopStep k) { w with pool := q }
  | cancel {k : Nat} {call : StopCall} (stands : w.pool.stops[k]? = some call) :
      Controls w (.cancelStop k) { w with pool := w.pool.setStop k .cancelled }

theorem controls_act (h : a.isControl = true) : Controls w a (w.act a) := by
  cases a with
  | markStart =>
    simp only [World.act, markStarted]
    cases w.pool.isStarted <;> exact .mark
  | testStart =>
    simp only [World.act]
    split
    · exact .test (by assumption)
    · exact .rest
  | spawn =>
    simp only [World.act]
    split
    · exact .spawn (by assumption)
    · exact .rest
  | callStop => exact .call
  | stopStep k =>
    simp only [World.act]
    cases hq : w.pool.stopStep? k with
    | none => exact .rest
    | some q => exact .stop (stopStep?_stops hq)
  | cancelStop k =>
    simp only [World.act]
    cases hq : w.pool.cancelStop? k with
    | none => exact .rest
    | some q =>
      rw [cancelStop?_eq_setStop hq]
      cases stands : w.pool.stops[k]? with
      | none => simp [cancelStop?, stands] at hq
      | some call => exact .cancel stands
  | enqueue | announce | take | takeLate | startJob | work | crash | untrack | report | leave
  | endTicker | elsewhere => cases h

/-- Whether a call has signalled the workers and not returned. -/
def StopCall.hasSignalled : StopCall → Bool
  | .signalled | .joining _ => true
  | _ => false

private theorem StopCall.isActive_of_hasSignalled {call : StopCall} (h : call.hasSignalled = true) :
    call.isActive = true := by
  cases call with
  | signalled | joining => rfl
  | pending | closed | returned | cancelled => cases h

/-- An action that keeps the first start of a pool apart from its being stopped. The queue is not
closed during that start, and the start does not begin between the closing and the end of a stop. -/
def World.KeepsApart (w : World) : Action → Prop
  | .markStart => w.pool.isStarted = true ∨ w.pool.isOpen = true ∨ w.pool.isStopped = true
  | .stopStep _ => w.start = .absent ∨ w.pool.isOpen = false
  | _ => True

instance (w : World) (a : Action) : Decidable (w.KeepsApart a) :=
  match a with
  | .markStart => inferInstanceAs (Decidable (_ ∨ _ ∨ _))
  | .stopStep _ => inferInstanceAs (Decidable (_ ∨ _))
  | .enqueue _ | .testStart | .spawn | .announce _ | .take _ | .takeLate _ | .startJob _ | .work ..
  | .crash _ | .untrack _ | .report _ | .leave _ | .endTicker | .callStop | .cancelStop _
  | .elsewhere _ => isTrue trivial

/-- What is known of the control of a pool whose start is kept apart from its being stopped. -/
structure Gated (c : Control) : Prop where
  cleared : c.start = .cleared → c.isOpen = true
  marked : c.start = .marked → c.isOpen = true ∨ c.isStopped = true
  active : ∀ call ∈ c.stops, call.isActive = true → c.isOpen = false
  signalled : ∀ call ∈ c.stops, call.hasSignalled = true → c.isSignalled = true ∨ c.size = 0
  stopped : c.isStopped = true → c.isOpen = false
  returned : .returned ∈ c.stops → c.isStopped = true

/-- A pool that is closed, with its workers signalled if there are any. -/
structure Shut (c : Control) : Prop where
  closed : c.isOpen = false
  signalled : c.isSignalled = true ∨ c.size = 0

theorem Gated.shut {c : Control} (h : Gated c) (moment : .signalled ∈ c.stops) : Shut c where
  closed := h.active _ moment rfl
  signalled := h.signalled _ moment rfl

theorem gated_opened (settings : Settings) (b : Backend) :
    Gated (World.opened settings b).control where
  cleared := nofun
  marked := nofun
  active := nofun
  signalled := nofun
  stopped := nofun
  returned := nofun

section Gated

variable {c : Control}

theorem Gated.setStop (h : Gated c) (k : Nat) (call : StopCall)
    (active : call.isActive = true → c.isOpen = false)
    (signalled : call.hasSignalled = true → c.isSignalled = true ∨ c.size = 0)
    (returned : call = .returned → c.isStopped = true) :
    Gated { c with stops := c.stops.set k call } where
  cleared := h.cleared
  marked := h.marked
  active other hother := by
    rcases List.mem_or_eq_of_mem_set hother with old | rfl
    · exact h.active other old
    · exact active
  signalled other hother := by
    rcases List.mem_or_eq_of_mem_set hother with old | rfl
    · exact h.signalled other old
    · exact signalled
  stopped := h.stopped
  returned hreturned := by
    rcases List.mem_or_eq_of_mem_set hreturned with old | new
    · exact h.returned old
    · exact returned new.symm

theorem Gated.cancelStop (h : Gated c) (k : Nat) :
    Gated { c with stops := c.stops.set k .cancelled } :=
  h.setStop k .cancelled nofun nofun nofun

theorem Gated.close (h : Gated c) (apart : c.start = .absent ∨ c.isOpen = false) :
    Gated { c with isOpen := false } := by
  rcases apart with absent | closed
  · refine ⟨fun cleared => ?_, fun marked => ?_, fun _ _ _ => rfl, h.signalled, fun _ => rfl, h.returned⟩
    · rw [show c.start = _ from cleared] at absent
      cases absent
    · rw [show c.start = _ from marked] at absent
      cases absent
  · rw [← closed]
    exact h

theorem Gated.signal (h : Gated c) (isSignalled : Bool)
    (more : c.isSignalled = true → isSignalled = true) : Gated { c with isSignalled } where
  cleared := h.cleared
  marked := h.marked
  active := h.active
  signalled call hcall hsignalled := (h.signalled call hcall hsignalled).imp_left more
  stopped := h.stopped
  returned := h.returned

theorem Gated.stop (h : Gated c) (closed : c.isOpen = false) : Gated { c with isStopped := true } where
  cleared := h.cleared
  marked _ := .inr rfl
  active := h.active
  signalled := h.signalled
  stopped _ := closed
  returned _ := rfl

end Gated

private theorem gated_stops {k : Nat} (h : Gated w.control)
    (apart : w.start = .absent ∨ w.pool.isOpen = false) (stops : Stops w.pool k q) :
    Gated ({ w with pool := q } : World).control := by
  cases stops with
  | join _ stopped => exact h.setStop k _ nofun nofun fun _ => stopped
  | close => exact (h.close apart).setStop k _ (fun _ => rfl) nofun nofun
  | signal stands =>
    have closed := h.active _ (List.mem_of_getElem? stands) rfl
    cases hw : w.pool.workers with
    | nil =>
      have size : w.control.size = 0 := by simp [World.control, hw]
      have next := h.setStop k .signalled (fun _ => closed) (fun _ => .inr size) nofun
      simpa [World.control, Pool.setStop, Pool.signal, hw] using next
    | cons φ workers =>
      have next := (h.signal true fun _ => rfl).setStop k .signalled
        (fun _ => closed) (fun _ => .inl rfl) nofun
      simpa [World.control, Pool.setStop, Pool.signal, hw] using next
  | await stands =>
    have known := List.mem_of_getElem? stands
    exact h.setStop k _ (fun _ => h.active _ known rfl) (fun _ => h.signalled _ known rfl) nofun
  | finish stands =>
    have closed := h.active _ (List.mem_of_getElem? stands) rfl
    exact (h.stop closed).setStop k _ nofun nofun fun _ => rfl

theorem Gated.callStop {c : Control} (h : Gated c) : Gated { c with stops := c.stops ++ [.pending] } where
  cleared := h.cleared
  marked := h.marked
  active call hcall hactive := by
    rcases List.mem_append.mp hcall with old | new
    · exact h.active call old hactive
    · obtain rfl := List.mem_singleton.mp new
      cases hactive
  signalled call hcall hsignalled := by
    rcases List.mem_append.mp hcall with old | new
    · exact h.signalled call old hsignalled
    · obtain rfl := List.mem_singleton.mp new
      cases hsignalled
  stopped := h.stopped
  returned hreturned := by
    rcases List.mem_append.mp hreturned with old | new
    · exact h.returned old
    · cases List.mem_singleton.mp new

private theorem gated_markStart (h : Gated w.control) (apart : w.KeepsApart .markStart) :
    Gated (w.act .markStart).control := by
  simp only [World.act, markStarted]
  cases first : w.pool.isStarted with
  | true => exact ⟨h.cleared, h.marked, h.active, h.signalled, h.stopped, h.returned⟩
  | false =>
    refine ⟨fun cleared => ?_, fun _ => ?_, h.active, h.signalled, h.stopped, h.returned⟩
    · cases cleared
    · exact apart.resolve_left (by simp [first])

private theorem gated_testStart (h : Gated w.control) : Gated (w.act .testStart).control := by
  simp only [World.act]
  split
  · rename_i marked
    refine ⟨fun cleared => ?_, fun marked => ?_, h.active, h.signalled, h.stopped, h.returned⟩
    · cases stopped : w.pool.isStopped with
      | true => simp [World.control, maySpawn, stopped] at cleared
      | false => exact (h.marked marked).resolve_right (by simp [World.control, stopped])
    · simp only [World.control] at marked
      split at marked <;> cases marked
  · exact h

private theorem gated_spawn (h : Gated w.control) : Gated (w.act .spawn).control := by
  simp only [World.act]
  split
  · rename_i cleared
    have isOpen : w.pool.isOpen = true := h.cleared cleared
    refine ⟨fun cleared => ?_, fun marked => ?_, h.active, fun call hcall signalled => ?_,
      h.stopped, h.returned⟩
    · cases cleared
    · cases marked
    · have closed := h.active call hcall (StopCall.isActive_of_hasSignalled signalled)
      rw [show w.control.isOpen = true from isOpen] at closed
      cases closed
  · exact h

/-- Every action that keeps starting and stopping apart keeps what is known of the control. -/
theorem gated_act (h : Gated w.control) (apart : w.KeepsApart a) : Gated (w.act a).control := by
  cases ha : a.isControl with
  | false =>
    rw [(sameControl_act ha).control]
    exact h
  | true =>
    cases a with
    | markStart => exact gated_markStart h apart
    | testStart => exact gated_testStart h
    | spawn => exact gated_spawn h
    | callStop => exact h.callStop
    | stopStep k =>
      simp only [World.act]
      cases hq : w.pool.stopStep? k with
      | none => exact h
      | some q => exact gated_stops h apart (stopStep?_stops hq)
    | cancelStop k =>
      simp only [World.act]
      cases hq : w.pool.cancelStop? k with
      | none => exact h
      | some q =>
        rw [cancelStop?_eq_setStop hq]
        exact h.cancelStop k
    | enqueue | announce | take | takeLate | startJob | work | crash | untrack | report | leave
    | endTicker | elsewhere => cases ha

theorem Stops.shut {k : Nat} (stops : Stops w.pool k q) (shut : Shut w.control) :
    Shut ({ w with pool := q } : World).control := by
  cases stops with
  | join | await | finish => exact ⟨shut.closed, shut.signalled⟩
  | close => exact ⟨rfl, shut.signalled⟩
  | signal =>
    unfold Pool.signal
    split
    · exact ⟨shut.closed, shut.signalled⟩
    · exact ⟨shut.closed, .inl rfl⟩

/-- A pool that is shut stays so and gets no workers, whatever happens. -/
theorem shut_act (h : Gated w.control) (shut : Shut w.control) (a : Action) :
    Shut (w.act a).control ∧ (w.act a).control.size = w.control.size := by
  cases ha : a.isControl with
  | false =>
    rw [(sameControl_act ha).control]
    exact ⟨shut, rfl⟩
  | true =>
    have controls : Controls w a (w.act a) := controls_act ha
    generalize w.act a = w' at controls ⊢
    cases controls with
    | rest | mark | test | call | cancel => exact ⟨⟨shut.closed, shut.signalled⟩, rfl⟩
    | spawn cleared =>
      have isOpen := h.cleared cleared
      rw [shut.closed] at isOpen
      cases isOpen
    | stop stops => exact ⟨stops.shut shut, congrArg List.length stops.workers⟩

/-- An action at which no worker looks at the signal before it is given and at the queue after it. -/
def Action.isPrompt : Action → Bool
  | .takeLate _ => false
  | _ => true

private theorem takeNext?_of_signalled {v : Nat} (signalled : p.isSignalled = true)
    (h : p.takeNext? v = some q) : q = p.setPhase v .leaving := by
  unfold takeNext? at h
  split at h
  · rw [if_pos signalled] at h
    exact (Option.some.inj h).symm
  · cases h

/-- In a pool that is shut nobody is dequeued. -/
theorem dequeued?_of_shut (shut : Shut w.control) (prompt : a.isPrompt = true) :
    w.dequeued? a = none := by
  cases a with
  | takeLate => cases prompt
  | take v =>
    simp only [World.dequeued?, World.act]
    cases hq : w.pool.takeNext? v with
    | none => exact dequeuedBetween?_self _
    | some q =>
      have idle : w.pool.workers[v]? = some .idle := by
        cases takeNext?_eq_some hq with
        | withdraws stands | takes stands => exact stands
      obtain ⟨hv, _⟩ := List.getElem?_eq_some_iff.mp idle
      have signalled : w.pool.isSignalled = true :=
        shut.signalled.resolve_right (Nat.ne_of_gt (Nat.zero_lt_of_lt hv))
      rw [takeNext?_of_signalled signalled hq, idle]
      simp [World.onPool, setPhase, hv, dequeuedBetween?]
  | _ => rfl

private theorem offered?_of_shut (shut : Shut w.control) {outcome : EnqueueOutcome}
    (other : outcome ≠ .closed) : w.offered? outcome a = none := by
  cases a with
  | enqueue id =>
    simp only [World.offered?]
    rw [enqueue_of_closed shut.closed]
    exact if_neg other.symm
  | _ => rfl

theorem buffer_act (shut : Shut w.control) (prompt : a.isPrompt = true) :
    (w.act a).pool.buffer = w.pool.buffer := by
  have queue := (World.serves_act w a).queue
  rw [dequeued?_of_shut shut prompt, offered?_of_shut shut (by simp)] at queue
  simpa using queue.symm

end MeetingInsights.Pool
