import MeetingInsights.Finding
import MeetingInsights.Store

/-! # Programs over the store

A program that works on the store is a tree of calls. Each call names one operation and continues
with its answer, so that programs can be run one after another or call by call among each other.
-/

namespace MeetingInsights

/-- One request of a program: an operation of the store, or a question to the provider. -/
inductive Call where
  | createMeeting (draft : MeetingDraft)
  | fetchMeeting (id : Uuid)
  | updateStatus (id : Uuid) (status : Status) (message : Option String)
  | idsByStatus (status : Status)
  | createOpportunity (draft : OpportunityDraft)
  | roster
  | findTheme (name : String)
  | createTheme (name : String)
  | addEvidence (draft : EvidenceDraft)
  | extract (meeting : Meeting) (roster : List RosterEntry)

namespace Call

/-- What a call answers when it succeeds. -/
abbrev Result : Call → Type
  | createMeeting _ => Meeting
  | fetchMeeting _ => Meeting
  | updateStatus .. => Unit
  | idsByStatus _ => List Uuid
  | createOpportunity _ => Uuid
  | roster => List RosterEntry
  | findTheme _ => Option Theme
  | createTheme _ => Theme
  | addEvidence _ => Uuid
  | extract .. => List Finding

abbrev Answer (c : Call) : Type := Except Error c.Result

end Call

inductive Program (α : Type) where
  | done (a : α)
  | call (c : Call) (next : c.Answer → Program α)

namespace Program

/-- Runs one program and then another that depends on its result. -/
def bind {α β : Type} (p : Program α) (f : α → Program β) : Program β :=
  match p with
  | done a => f a
  | call c next => call c fun r => (next r).bind f

instance : Monad Program where
  pure := done
  bind := bind

def ask (c : Call) : Program c.Answer := call c done

@[simp] theorem pure_eq {α : Type} (a : α) : (pure a : Program α) = done a := rfl

@[simp] theorem done_bind {α β : Type} (a : α) (f : α → Program β) : done a >>= f = f a := rfl

@[simp] theorem call_bind {α β : Type} (c : Call) (next : c.Answer → Program α)
    (f : α → Program β) : call c next >>= f = call c fun r => next r >>= f := rfl

theorem bind_done {α : Type} (p : Program α) : p >>= done = p := by
  induction p with
  | done a => rfl
  | call c next ih =>
    rw [call_bind]
    congr 1
    funext r
    exact ih r

theorem bind_assoc {α β γ : Type} (p : Program α) (f : α → Program β) (g : β → Program γ) :
    p >>= f >>= g = p >>= fun a => f a >>= g := by
  induction p with
  | done a => rfl
  | call c next ih =>
    simp only [call_bind]
    congr 1
    funext r
    exact ih r

instance : LawfulMonad Program :=
  LawfulMonad.mk' Program bind_done (fun _ _ => rfl) bind_assoc

end Program

abbrev Attempt (α : Type) : Type := ExceptT Error Program α

def Call.attempt (c : Call) : Attempt c.Result := Program.ask c

end MeetingInsights
