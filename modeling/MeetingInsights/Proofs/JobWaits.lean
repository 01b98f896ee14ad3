import MeetingInsights.Proofs.IntakeRuns

/-! # Waiting for the end of a job

One who waits for the end of a job receives the events of a pool while they are sent. The channel
keeps the last events only, so the end of the job may be gone before it is received. When it is
heard is said here for any events and any order in which they are sent and received.
-/

namespace MeetingInsights

namespace Pool

/-- One who waits for the end of a job, past so many events, or who has been told its counts by the
last of them. -/
inductive Waiter where
  | waiting (position : Nat)
  | told (position : Nat) (counts : Nat × Nat)
deriving DecidableEq, Repr

namespace Waiter

def passed : Waiter → Nat
  | .waiting position | .told position _ => position

def receive (meeting : Uuid) (sent : List Event) : Waiter → Waiter
  | .waiting position =>
    match Pool.receive sent position with
    | (.message e, next) =>
      match e.counts? meeting with
      | some counts => .told next counts
      | none => .waiting next
    | (.lagged _, next) => .waiting next
    | (.empty, next) => .waiting next
  | .told position counts => .told position counts

/-- What a receive comes to for one who is past so many of the events that have been sent. -/
inductive Receives (meeting : Uuid) (sent : List Event) (position : Nat) : Waiter → Prop where
  | skips (behind : position + channelCapacity < sent.length) :
      Receives meeting sent position (.waiting (sent.length - channelCapacity))
  | hears {e counts} (kept : sent.length ≤ position + channelCapacity)
      (next : sent[position]? = some e) (ends : e.counts? meeting = some counts) :
      Receives meeting sent position (.told (position + 1) counts)
  | passes {e} (kept : sent.length ≤ position + channelCapacity)
      (next : sent[position]? = some e) (other : e.counts? meeting = none) :
      Receives meeting sent position (.waiting (position + 1))
  | rests (all : sent.length ≤ position) : Receives meeting sent position (.waiting position)

theorem receives_receive (meeting : Uuid) (sent : List Event) (position : Nat) :
    Receives meeting sent position (receive meeting sent (.waiting position)) := by
  by_cases behind : channelCapacity < sent.length - position
  · simp only [receive, Pool.receive, if_pos behind]
    exact .skips (by omega)
  · simp only [receive, Pool.receive, if_neg behind]
    cases next : sent[position]? with
    | none => exact .rests (List.getElem?_eq_none_iff.mp next)
    | some e =>
      dsimp only
      cases tells : e.counts? meeting with
      | none => exact .passes (by omega) next tells
      | some counts => exact .hears (by omega) next tells

theorem receive_eq_empty {sent : List Event} {position next : Nat}
    (h : Pool.receive sent position = (.empty, next)) : next = position := by
  unfold Pool.receive at h
  split at h
  · cases h
  · split at h
    · cases h
    · cases h
      rfl

private theorem iterate_receive_told (meeting : Uuid) (sent : List Event) (position : Nat)
    (counts : Nat × Nat) (n : Nat) :
    (receive meeting sent)^[n] (.told position counts) = .told position counts :=
  Function.iterate_fixed rfl n

/-- To receive until the end of a job shows or nothing is left is to receive over and over again. -/
theorem awaitCounts_eq (meeting : Uuid) (sent : List Event) (position fuel : Nat) :
    awaitCounts meeting sent position fuel =
      match (receive meeting sent)^[fuel] (.waiting position) with
      | .told _ counts => .ok counts
      | .waiting position => .error position := by
  induction fuel generalizing position with
  | zero => rfl
  | succ fuel ih =>
    rw [Function.iterate_succ_apply]
    rcases found : Pool.receive sent position with ⟨e | missed | _, next⟩
    · cases tells : e.counts? meeting with
      | some counts => simp only [awaitCounts, receive, found, tells, iterate_receive_told]
      | none => simp only [awaitCounts, receive, found, tells, ih]
    · simp only [awaitCounts, receive, found, ih]
    · obtain rfl := receive_eq_empty found
      have rests : receive meeting sent (.waiting next) = .waiting next := by
        simp only [receive, found]
      simp only [awaitCounts, found, rests, Function.iterate_fixed rests]

end Waiter

end Pool

/-- Who takes a meeting in waits for the end of its job in this manner. -/
theorem Ingest.Intake.advance_listening {i : Intake} {id : Uuid} {position : Nat}
    (listens : i.caller = .listening id position) (provider : Provider) :
    i.advance provider =
      match Pool.Waiter.receive id i.world.pool.events (.waiting position) with
      | .told _ counts => i.beginStop id (.ok counts)
      | .waiting position => { i with caller := .listening id position } := by
  rcases found : Pool.receive i.world.pool.events position with ⟨e | missed | _, next⟩
  · cases tells : e.counts? id <;> simp only [advance, listens, Pool.Waiter.receive, found, tells]
  · simp only [advance, listens, Pool.Waiter.receive, found]
  · obtain rfl := Pool.Waiter.receive_eq_empty found
    simp only [advance, listens, Pool.Waiter.receive, found]
    rw [← listens]

namespace Pool

/-- The events that have been sent since one has begun to wait. -/
structure Listening where
  sent : List Event
  waiter : Waiter
deriving DecidableEq, Repr

inductive Moment where
  | sends (e : Event)
  | receives
deriving DecidableEq, Repr

def Moment.sent? : Moment → Option Event
  | .sends e => some e
  | .receives => none

namespace Listening

def subscribed : Listening := ⟨[], .waiting 0⟩

def step (meeting : Uuid) (l : Listening) : Moment → Listening
  | .sends e => { l with sent := l.sent ++ [e] }
  | .receives => { l with waiter := l.waiter.receive meeting l.sent }

def run (meeting : Uuid) (l : Listening) (schedule : List Moment) : Listening :=
  schedule.foldl (step meeting) l

/-- Whenever there is something to receive, the channel keeps the event that is sent after so many
others, unless it has been passed. -/
def InTime (meeting : Uuid) (before : Nat) (l : Listening) : List Moment → Prop
  | [] => True
  | .sends e :: schedule => InTime meeting before (l.step meeting (.sends e)) schedule
  | .receives :: schedule =>
    (l.waiter.passed ≤ before → l.sent.length ≤ before + channelCapacity) ∧
      InTime meeting before (l.step meeting .receives) schedule

variable {meeting : Uuid} {l : Listening} {schedule : List Moment} {es : List Event} {k n : Nat}
  {counts : Nat × Nat}

theorem sent_run (l : Listening) (schedule : List Moment) :
    (l.run meeting schedule).sent = l.sent ++ schedule.filterMap Moment.sent? := by
  induction schedule generalizing l with
  | nil => exact (List.append_nil _).symm
  | cons m schedule ih =>
    change ((l.step meeting m).run meeting schedule).sent = _
    rw [ih]
    cases m with
    | sends e => exact List.append_assoc _ _ _
    | receives => rfl

theorem run_append (l : Listening) (earlier later : List Moment) :
    l.run meeting (earlier ++ later) = (l.run meeting earlier).run meeting later :=
  List.foldl_append

theorem filterMap_sent?_sends (es : List Event) :
    (es.map Moment.sends).filterMap Moment.sent? = es := by
  simp [List.filterMap_map, Function.comp_def, Moment.sent?]

theorem filterMap_sent?_receives (n : Nat) :
    (List.replicate n Moment.receives).filterMap Moment.sent? = [] :=
  List.filterMap_eq_nil_iff.mpr fun m hm => by
    rw [List.eq_of_mem_replicate hm]
    rfl

theorem waiter_run {J : Waiter → Prop} (initial : J l.waiter)
    (all : l.sent ++ schedule.filterMap Moment.sent? = es)
    (keep : ∀ {w sent}, sent <+: es → J w → J (w.receive meeting sent)) :
    J (l.run meeting schedule).waiter := by
  induction schedule generalizing l with
  | nil => exact initial
  | cons m schedule ih =>
    cases m with
    | sends e =>
      exact ih (l := l.step meeting (.sends e)) initial ((List.append_assoc _ _ _).trans all)
    | receives => exact ih (l := l.step meeting .receives) (keep ⟨_, all⟩ initial) all

theorem waiter_run_of_told {position : Nat} (told : l.waiter = .told position counts)
    (schedule : List Moment) : (l.run meeting schedule).waiter = .told position counts :=
  waiter_run (J := (· = .told position counts)) told rfl fun _ same => by rw [same, Waiter.receive]

/-- One who waits is not past an event, or has been told by it. -/
def OnTime (k : Nat) (counts : Nat × Nat) (w : Waiter) : Prop :=
  (∃ position ≤ k, w = .waiting position) ∨ w = .told (k + 1) counts

/-- One who waits is past an event, or has been told by another after it. -/
def IsLate (k : Nat) : Waiter → Prop
  | .waiting position => k < position
  | .told position _ => k + 1 < position

theorem IsLate.receive {w : Waiter} (h : IsLate k w) (meeting : Uuid) (sent : List Event) :
    IsLate k (w.receive meeting sent) := by
  cases w with
  | told position counts => exact h
  | waiting position =>
    have past : k < position := h
    have received := Waiter.receives_receive meeting sent position
    generalize Waiter.receive meeting sent (.waiting position) = w at received ⊢
    cases received with
    | skips behind => exact (by omega : k < sent.length - channelCapacity)
    | hears => exact Nat.succ_lt_succ past
    | passes => exact Nat.lt_succ_of_lt past
    | rests => exact past

private theorem isLate_run (h : IsLate k l.waiter) (schedule : List Moment) :
    IsLate k (l.run meeting schedule).waiter :=
  waiter_run h rfl fun _ late => late.receive meeting _

private theorem isLate_of_gone {position : Nat} {sent : List Event} (near : position ≤ k)
    (gone : k + channelCapacity < sent.length) :
    IsLate k (Waiter.receive meeting sent (.waiting position)) := by
  have received := Waiter.receives_receive meeting sent position
  generalize Waiter.receive meeting sent (.waiting position) = w at received ⊢
  cases received with
  | skips => exact (by omega : k < sent.length - channelCapacity)
  | hears kept | passes kept => omega
  | rests all => omega

private theorem IsLate.not_onTime {w : Waiter} (h : IsLate k w) : ¬ OnTime k counts w := by
  rintro (⟨position, le, rfl⟩ | rfl)
  · exact absurd h (Nat.not_lt_of_le le)
  · exact absurd h (Nat.lt_irrefl _)

private theorem getElem?_of_prior {sent : List Event} {position : Nat} {e : Event}
    (prior : sent <+: es) (next : sent[position]? = some e) : es[position]? = some e := by
  obtain ⟨late, rfl⟩ := List.getElem?_eq_some_iff.mp next
  exact List.prefix_iff_getElem?.mp prior position late

theorem OnTime.receive {w : Waiter} (h : OnTime k counts w) {sent : List Event}
    (prior : sent <+: es) (untold : ∀ j < k, ∀ x, es[j]? = some x → x.counts? meeting = none)
    (ends : ∀ x, es[k]? = some x → x.counts? meeting = some counts)
    (kept : w.passed ≤ k → sent.length ≤ k + channelCapacity) :
    OnTime k counts (w.receive meeting sent) := by
  rcases h with ⟨position, le, rfl⟩ | rfl
  · have near := kept le
    have received := Waiter.receives_receive meeting sent position
    generalize Waiter.receive meeting sent (.waiting position) = w at received ⊢
    cases received with
    | skips behind => exact .inl ⟨_, by omega, rfl⟩
    | hears _ next tells =>
      rcases Nat.lt_or_eq_of_le le with earlier | rfl
      · rw [untold position earlier _ (getElem?_of_prior prior next)] at tells
        cases tells
      · rw [ends _ (getElem?_of_prior prior next)] at tells
        cases tells
        exact .inr rfl
    | passes _ next other =>
      rcases Nat.lt_or_eq_of_le le with earlier | rfl
      · exact .inl ⟨_, earlier, rfl⟩
      · rw [ends _ (getElem?_of_prior prior next)] at other
        cases other
    | rests => exact .inl ⟨_, le, rfl⟩
  · exact .inr rfl

private theorem onTime_run (h : OnTime k counts l.waiter)
    (all : l.sent ++ schedule.filterMap Moment.sent? = es)
    (untold : ∀ j < k, ∀ x, es[j]? = some x → x.counts? meeting = none)
    (ends : ∀ x, es[k]? = some x → x.counts? meeting = some counts)
    (inTime : InTime meeting k l schedule) : OnTime k counts (l.run meeting schedule).waiter := by
  induction schedule generalizing l with
  | nil => exact h
  | cons m schedule ih =>
    cases m with
    | sends e =>
      refine ih (l := l.step meeting (.sends e)) h ?_ inTime
      exact (List.append_assoc _ _ _).trans all
    | receives =>
      have prior : l.sent <+: es := ⟨_, all⟩
      have next := h.receive prior untold ends inTime.1
      exact ih (l := l.step meeting .receives) next all inTime.2

private theorem inTime_of_onTime (onTime : OnTime k counts (l.run meeting schedule).waiter) :
    InTime meeting k l schedule := by
  induction schedule generalizing l with
  | nil => trivial
  | cons m schedule ih =>
    cases m with
    | sends e => exact ih onTime
    | receives =>
      refine ⟨fun past => Nat.le_of_not_lt fun gone => ?_, ih onTime⟩
      have onTime : OnTime k counts ((l.step meeting .receives).run meeting schedule).waiter :=
        onTime
      cases waits : l.waiter with
      | told position counts =>
        -- Who has been told by an earlier event is not told by this one.
        rw [waits] at past
        have before : (l.step meeting .receives).waiter = .told position counts := by
          rw [step, waits, Waiter.receive]
        rw [waiter_run_of_told before] at onTime
        rcases onTime with ⟨_, _, same⟩ | same
        · cases same
        · cases same
          exact Nat.not_succ_le_self _ past
      | waiting position =>
        rw [waits] at past
        have late : IsLate k (l.step meeting .receives).waiter := by
          rw [step, waits]
          exact isLate_of_gone past gone
        exact (isLate_run late schedule).not_onTime onTime

/-- One who receives on and has heard of no end has passed an event each time, or all. -/
theorem passed_of_receives {position : Nat}
    (waits : (l.run meeting (List.replicate n .receives)).waiter = .waiting position) :
    n ≤ position ∨ l.sent.length ≤ position := by
  induction n generalizing position with
  | zero => exact .inl (Nat.zero_le _)
  | succ n ih =>
    have sent : (l.run meeting (List.replicate n .receives)).sent = l.sent := by
      rw [sent_run, filterMap_sent?_receives, List.append_nil]
    rw [List.replicate_succ', run_append] at waits
    cases before : (l.run meeting (List.replicate n .receives)).waiter with
    | told earlier counts =>
      rw [waiter_run_of_told before] at waits
      cases waits
    | waiting earlier =>
      have grown := ih before
      have received := Waiter.receives_receive meeting l.sent earlier
      change Waiter.receive meeting (l.run meeting (List.replicate n .receives)).sent
        (l.run meeting (List.replicate n .receives)).waiter = _ at waits
      rw [sent, before] at waits
      generalize Waiter.receive meeting l.sent (.waiting earlier) = w at received waits
      cases received with
      | skips behind =>
        obtain rfl := Waiter.waiting.inj waits
        omega
      | hears => cases waits
      | passes =>
        obtain rfl := Waiter.waiting.inj waits
        omega
      | rests all =>
        obtain rfl := Waiter.waiting.inj waits
        exact .inr all

def Told (meeting : Uuid) (es : List Event) : Waiter → Prop
  | .waiting _ => True
  | .told position counts =>
    ∃ k e, position = k + 1 ∧ es[k]? = some e ∧ e.counts? meeting = some counts

theorem Told.receive {w : Waiter} (h : Told meeting es w) {sent : List Event}
    (prior : sent <+: es) : Told meeting es (w.receive meeting sent) := by
  cases w with
  | told position counts => exact h
  | waiting position =>
    have received := Waiter.receives_receive meeting sent position
    generalize Waiter.receive meeting sent (.waiting position) = w at received ⊢
    cases received with
    | skips | passes | rests => trivial
    | hears _ next ends => exact ⟨position, _, rfl, getElem?_of_prior prior next, ends⟩

private theorem inTime_append {earlier later : List Moment} :
    InTime meeting k l (earlier ++ later) ↔
      InTime meeting k l earlier ∧ InTime meeting k (l.run meeting earlier) later := by
  induction earlier generalizing l with
  | nil => exact (iff_of_eq (true_and _)).symm
  | cons m earlier ih =>
    cases m with
    | sends e => exact ih
    | receives => exact (and_congr_right fun _ => ih).trans and_assoc.symm

/-- The channel keeps an event as long as it has room for those that are sent after it. -/
theorem inTime_of_few (all : l.sent ++ schedule.filterMap Moment.sent? = es)
    (few : es.length ≤ k + channelCapacity) : InTime meeting k l schedule := by
  induction schedule generalizing l with
  | nil => trivial
  | cons m schedule ih =>
    cases m with
    | sends e => exact ih (l := l.step meeting (.sends e)) ((List.append_assoc _ _ _).trans all)
    | receives =>
      have prior : l.sent <+: es := ⟨_, all⟩
      exact ⟨fun _ => Nat.le_trans prior.length_le few, ih (l := l.step meeting .receives) all⟩

theorem run_sends (l : Listening) (es : List Event) :
    l.run meeting (es.map .sends) = ⟨l.sent ++ es, l.waiter⟩ := by
  induction es generalizing l with
  | nil =>
    rw [List.append_nil]
    rfl
  | cons e es ih =>
    change (l.step meeting (.sends e)).run meeting _ = _
    rw [ih, step]
    simp

private theorem run_receives (l : Listening) (n : Nat) :
    l.run meeting (List.replicate n .receives) =
      { l with waiter := (Waiter.receive meeting l.sent)^[n] l.waiter } := by
  induction n generalizing l with
  | zero => rfl
  | succ n ih => exact ih (l.step meeting .receives)

/-- These events are sent and no others, and who waits receives for long enough after that. -/
def Attends (es : List Event) (schedule : List Moment) : Prop :=
  ∃ early n, schedule = early ++ List.replicate n .receives ∧
    early.filterMap Moment.sent? = es ∧ es.length ≤ n

theorem Attends.sent (h : Attends es schedule) : schedule.filterMap Moment.sent? = es := by
  obtain ⟨early, n, rfl, sends, _⟩ := h
  rw [List.filterMap_append, sends, filterMap_sent?_receives, List.append_nil]

theorem Attends.passed {position : Nat} (h : Attends es schedule)
    (waits : (subscribed.run meeting schedule).waiter = .waiting position) :
    es.length ≤ position := by
  obtain ⟨early, n, rfl, sends, enough⟩ := h
  rw [run_append] at waits
  rcases passed_of_receives waits with many | all
  · exact Nat.le_trans enough many
  · rw [sent_run, sends] at all
    exact all

def allAtOnce (es : List Event) : List Moment :=
  es.map .sends ++ List.replicate es.length .receives

theorem attends_allAtOnce (es : List Event) : Attends es (allAtOnce es) :=
  ⟨_, _, rfl, filterMap_sent?_sends es, Nat.le_refl _⟩

variable {before after : List Event} {e : Event}

theorem onTime_iff (untold : ∀ x ∈ before, x.counts? meeting = none)
    (ends : e.counts? meeting = some counts) (attends : Attends (before ++ e :: after) schedule) :
    (subscribed.run meeting schedule).waiter = .told (before.length + 1) counts ↔
      InTime meeting before.length subscribed schedule := by
  refine ⟨fun told => inTime_of_onTime (.inr told), fun inTime => ?_⟩
  have onTime : OnTime before.length counts (subscribed.run meeting schedule).waiter := by
    refine onTime_run (.inl ⟨0, Nat.zero_le _, rfl⟩) attends.sent ?_ ?_ inTime
    · intro j earlier x there
      rw [List.getElem?_append_left earlier] at there
      exact untold x (List.mem_of_getElem? there)
    · intro x there
      obtain rfl : e = x := by simpa using there
      exact ends
  rcases onTime with ⟨position, le, waits⟩ | told
  · have all := attends.passed waits
    rw [List.length_append, List.length_cons] at all
    omega
  · exact told

theorem told_of_kept (untold : ∀ x ∈ before, x.counts? meeting = none)
    (ends : e.counts? meeting = some counts) (attends : Attends (before ++ e :: after) schedule)
    (few : after.length < channelCapacity) :
    (subscribed.run meeting schedule).waiter = .told (before.length + 1) counts := by
  refine (onTime_iff untold ends attends).mpr (inTime_of_few attends.sent ?_)
  rw [List.length_append, List.length_cons]
  omega

/-- Who has missed the only end of a job waits on, however often it receives. -/
theorem waits_of_missed (untold : ∀ x ∈ before, x.counts? meeting = none)
    (ends : e.counts? meeting = some counts) (attends : Attends (before ++ e :: after) schedule)
    (missed : ¬ InTime meeting before.length subscribed schedule)
    (quiet : ∀ x ∈ after, x.counts? meeting = none) :
    ∃ position, (subscribed.run meeting schedule).waiter = .waiting position := by
  cases waits : (subscribed.run meeting schedule).waiter with
  | waiting position => exact ⟨position, rfl⟩
  | told position counts' =>
    have told : Told meeting (before ++ e :: after) (subscribed.run meeting schedule).waiter :=
      waiter_run (J := Told meeting _) trivial attends.sent fun prior told => told.receive prior
    rw [waits] at told
    obtain ⟨k, x, rfl, there, ends'⟩ := told
    rcases Nat.lt_trichotomy k before.length with earlier | rfl | later
    · rw [List.getElem?_append_left earlier] at there
      cases (untold x (List.mem_of_getElem? there)).symm.trans ends'
    · obtain rfl : e = x := by simpa using there
      obtain rfl := Option.some.inj (ends.symm.trans ends')
      exact (missed ((onTime_iff untold ends attends).mp waits)).elim
    · obtain ⟨d, rfl⟩ := Nat.exists_eq_add_of_lt later
      rw [List.getElem?_append_right (by omega),
        show before.length + d + 1 - before.length = d + 1 by omega,
        List.getElem?_cons_succ] at there
      cases (quiet x (List.mem_of_getElem? there)).symm.trans ends'

theorem not_inTime_allAtOnce (many : channelCapacity ≤ after.length) :
    ¬ InTime meeting before.length subscribed (allAtOnce (before ++ e :: after)) := by
  intro inTime
  obtain ⟨_, received⟩ := inTime_append.mp inTime
  rw [run_sends, List.length_append, List.length_cons, ← Nat.add_assoc,
    List.replicate_succ] at received
  have kept := received.1 (Nat.zero_le _)
  rw [subscribed, List.nil_append, List.length_append, List.length_cons] at kept
  omega

/-- Some events are sent, of which one is the first to tell the end of a job. Who has waited for it
since before is told by it if the channel has kept it until it was received, and waits on for ever
if not, unless the job has ended again. It is heard whatever the order in which the events are sent
and received just if the channel has room for all that are sent after it. -/
theorem told_iff_kept (untold : ∀ x ∈ before, x.counts? meeting = none)
    (ends : e.counts? meeting = some counts) :
    (∀ schedule, Attends (before ++ e :: after) schedule →
      ((subscribed.run meeting schedule).waiter = .told (before.length + 1) counts ↔
        InTime meeting before.length subscribed schedule) ∧
      (¬ InTime meeting before.length subscribed schedule →
        (∀ x ∈ after, x.counts? meeting = none) →
        ∃ position, (subscribed.run meeting schedule).waiter = .waiting position)) ∧
    ((∀ schedule, Attends (before ++ e :: after) schedule →
      (subscribed.run meeting schedule).waiter = .told (before.length + 1) counts) ↔
        after.length < channelCapacity) := by
  refine ⟨fun schedule attends => ⟨onTime_iff untold ends attends, ?_⟩, ?_⟩
  · exact waits_of_missed untold ends attends
  · constructor
    · intro hears
      refine Nat.lt_of_not_le fun many => ?_
      have attends := attends_allAtOnce (before ++ e :: after)
      exact not_inTime_allAtOnce many ((onTime_iff untold ends attends).mp (hears _ attends))
    · exact fun few schedule attends => told_of_kept untold ends attends few

/-- A worker begins, and ends a job before another begins. -/
theorem told_of_oneEnd :
    (subscribed.run ⟨1⟩ (allAtOnce [.workerStarted 0, .jobStarted ⟨1⟩ 0, .jobCompleted ⟨1⟩ 2 3,
      .workerStarted 1])).waiter = .told 3 (2, 3) := by
  have untold : ∀ x ∈ [Event.workerStarted 0, .jobStarted ⟨1⟩ 0], x.counts? ⟨1⟩ = none := by decide
  have ends : (Event.jobCompleted ⟨1⟩ 2 3).counts? ⟨1⟩ = some (2, 3) := rfl
  have few : [Event.workerStarted 1].length < channelCapacity := by decide
  exact (told_iff_kept untold ends).2.mpr few _ (attends_allAtOnce _)

/-- The end of a job is lost when as many others begin to work as the channel keeps events. -/
theorem not_all_ends_are_heard :
    ¬ ∀ (meeting : Uuid) (before after : List Event) (e : Event) (counts : Nat × Nat),
      (∀ x ∈ before, x.counts? meeting = none) → e.counts? meeting = some counts →
      ∀ schedule, Attends (before ++ e :: after) schedule →
        ∃ position, (subscribed.run meeting schedule).waiter = .told position counts := by
  intro h
  have quiet : ∀ x ∈ (List.range 256).map Event.workerStarted, x.counts? ⟨1⟩ = none := by
    simp [Event.counts?]
  have attends := attends_allAtOnce
    ([] ++ .jobCompleted ⟨1⟩ 2 3 :: (List.range 256).map .workerStarted)
  obtain ⟨position, told⟩ := h ⟨1⟩ [] _ (.jobCompleted ⟨1⟩ 2 3) (2, 3)
    (List.forall_mem_nil _) rfl _ attends
  obtain ⟨_, waits⟩ := waits_of_missed (List.forall_mem_nil _) rfl attends
    (not_inTime_allAtOnce (by simp [channelCapacity])) quiet
  cases told.symm.trans waits

end Listening

/-- One who receives when all has been sent finds the end of the job if it is still kept. -/
theorem awaitJob_of_kept {meeting : Uuid} {before after : List Event} {e : Event}
    {counts : Nat × Nat} (untold : ∀ x ∈ before, x.counts? meeting = none)
    (ends : e.counts? meeting = some counts) (few : after.length < channelCapacity) :
    awaitJob meeting (before ++ e :: after) 0 = .ok counts := by
  have attends : Listening.Attends (before ++ e :: after) _ :=
    ⟨_, _, rfl, Listening.filterMap_sent?_sends _, Nat.le_add_right _ 2⟩
  have told := Listening.told_of_kept untold ends attends few
  rw [Listening.run_append, Listening.run_sends, Listening.run_receives] at told
  rw [awaitJob, Waiter.awaitCounts_eq]
  simp only [Listening.subscribed, List.nil_append] at told
  rw [told]

end Pool

end MeetingInsights
