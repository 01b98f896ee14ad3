import MeetingInsights.Program

/-! # The backend

What answers the calls of programs: the store with the identifiers and the time that its new rows
get, the faults that make calls fail, and the record of the questions put to the provider.
-/

namespace MeetingInsights

structure Supply where
  meeting : Uuid
  opportunity : Uuid
  theme : Uuid
  evidence : Uuid
deriving DecidableEq, Repr, Inhabited

inductive Operation where
  | createMeeting
  | fetchMeeting
  | updateStatus
  | idsByStatus
  | createOpportunity
  | roster
  | findTheme
  | createTheme
  | addEvidence
deriving DecidableEq, Repr, Inhabited

def Call.operation? : Call → Option Operation
  | .createMeeting _ => some .createMeeting
  | .fetchMeeting _ => some .fetchMeeting
  | .updateStatus .. => some .updateStatus
  | .idsByStatus _ => some .idsByStatus
  | .createOpportunity _ => some .createOpportunity
  | .roster => some .roster
  | .findTheme _ => some .findTheme
  | .createTheme _ => some .createTheme
  | .addEvidence _ => some .addEvidence
  | .extract .. => none

/-- What a fault does to a call: it fails, or a search finds nothing. -/
inductive Disturbance where
  | failure (e : Error)
  | nothingFound
deriving DecidableEq, Repr, Inhabited

/-- A fault lets `skips` calls of an operation pass and disturbs the next `times` ones. -/
structure Fault where
  operation : Operation
  skips : Nat
  times : Nat
  disturbance : Disturbance
deriving DecidableEq, Repr, Inhabited

namespace Fault

/-- The disturbance of a call by the first of the faults that is due, and the faults with what the
call has used up of them. -/
def strike (op : Operation) : List Fault → Option Disturbance × List Fault
  | [] => (none, [])
  | f :: fs =>
    if f.operation = op then
      if 0 < f.skips then
        let (d, fs) := strike op fs
        (d, { f with skips := f.skips - 1 } :: fs)
      else if 0 < f.times then (some f.disturbance, { f with times := f.times - 1 } :: fs)
      else
        let (d, fs) := strike op fs
        (d, f :: fs)
    else
      let (d, fs) := strike op fs
      (d, f :: fs)

@[simp] theorem strike_nil (op : Operation) : strike op [] = (none, []) := rfl

end Fault

/-- A question put to the provider: the meeting and the roster it was shown. -/
structure Consultation where
  meeting : Meeting
  roster : List RosterEntry
deriving Inhabited

/-- What a provider finds in a meeting, given the roster. -/
abbrev Provider := Meeting → List RosterEntry → Except Error (List Finding)

/-- The store and all that answering calls depends on. -/
structure Backend where
  store : Store
  supply : Supply
  now : Timestamp
  faults : List Fault
  consultations : List Consultation
deriving Inhabited

namespace Backend

/-- Performs an operation of the store without regard to faults; the provider answers a question. -/
def perform (b : Backend) (provider : Provider) : (c : Call) → c.Answer × Backend
  | .createMeeting draft =>
    let (m, store) := b.store.createMeeting draft b.supply.meeting b.now
    (.ok m, { b with store, supply.meeting := b.supply.meeting.next })
  | .fetchMeeting id => (b.store.fetchMeeting id, b)
  | .updateStatus id status message =>
    match b.store.updateStatus id status message b.now with
    | .ok store => (.ok (), { b with store })
    | .error e => (.error e, b)
  | .idsByStatus status => (.ok (b.store.idsByStatus status), b)
  | .createOpportunity draft =>
    let id := b.supply.opportunity
    match b.store.createOpportunity draft id b.now with
    | .ok store => (.ok id, { b with store, supply.opportunity := id.next })
    | .error e => (.error e, b)
  | .roster => (.ok b.store.roster, b)
  | .findTheme name => (.ok (b.store.findTheme? name), b)
  | .createTheme name =>
    match b.store.createTheme name b.supply.theme b.now with
    | .ok (t, store) => (.ok t, { b with store, supply.theme := b.supply.theme.next })
    | .error e => (.error e, b)
  | .addEvidence draft =>
    let id := b.supply.evidence
    match b.store.addEvidence draft id b.now with
    | .ok store => (.ok id, { b with store, supply.evidence := id.next })
    | .error e => (.error e, b)
  | .extract meeting roster =>
    (provider meeting roster, { b with consultations := b.consultations ++ [⟨meeting, roster⟩] })

/-- The answer of a disturbed call, unless the disturbance means nothing to it. -/
def disturbed? : Disturbance → (c : Call) → Option c.Answer
  | .failure e, _ => some (.error e)
  | .nothingFound, .findTheme _ => some (.ok none)
  | .nothingFound, _ => none

def strike (b : Backend) (c : Call) : Option Disturbance × Backend :=
  match c.operation? with
  | some op =>
    let (d, faults) := Fault.strike op b.faults
    (d, { b with faults })
  | none => (none, b)

/-- Answers a call: a disturbed one by its disturbance and any other by performing it. -/
def answer (b : Backend) (provider : Provider) (c : Call) : c.Answer × Backend :=
  let (disturbance, b) := b.strike c
  match disturbance.bind fun d => disturbed? d c with
  | some r => (r, b)
  | none => b.perform provider c

end Backend

def Program.run {α : Type} (provider : Provider) : Program α → Backend → α × Backend
  | .done a, b => (a, b)
  | .call c next, b =>
    let (r, b) := b.answer provider c
    (next r).run provider b

namespace Program

@[simp] theorem run_done {α : Type} (provider : Provider) (a : α) (b : Backend) :
    (done a : Program α).run provider b = (a, b) := rfl

theorem run_call {α : Type} (provider : Provider) (c : Call) (next : c.Answer → Program α)
    (b : Backend) :
    (call c next).run provider b =
      (next (b.answer provider c).1).run provider (b.answer provider c).2 := rfl

theorem run_bind {α β : Type} (provider : Provider) (p : Program α) (f : α → Program β)
    (b : Backend) :
    (p >>= f).run provider b = (f (p.run provider b).1).run provider (p.run provider b).2 := by
  induction p generalizing b with
  | done a => rfl
  | call c next ih => rw [call_bind, run_call, run_call, ih]

end Program

def Attempt.run {α : Type} (provider : Provider) (t : Attempt α) (b : Backend) :
    Except Error α × Backend :=
  Program.run provider (ExceptT.run t) b

end MeetingInsights
