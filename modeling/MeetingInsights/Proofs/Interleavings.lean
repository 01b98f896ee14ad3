import MeetingInsights.Backend
import MeetingInsights.Proofs.Exchanges

/-! # Programs side by side

Any number of programs share one backend and have their calls answered one at a time, in any order.
The faults, the supply and the time are given with each turn, so that they may be others every time.
-/

namespace MeetingInsights

/-- A program under way: what it has exchanged, and the rest of it. -/
structure Thread (α : Type) where
  past : List Exchange
  rest : Program α

/-- What an answer depends on besides the store. -/
structure Conditions where
  faults : List Fault
  supply : Supply
  now : Timestamp

def Backend.under (b : Backend) (k : Conditions) : Backend :=
  { b with faults := k.faults, supply := k.supply, now := k.now }

structure Interleaving (α : Type) where
  backend : Backend
  threads : List (Thread α)

namespace Interleaving

variable {α : Type} {w : Interleaving α} {provider : Provider} {k : Conditions}

def launched (b : Backend) (programs : List (Program α)) : Interleaving α :=
  ⟨b, programs.map fun p => ⟨[], p⟩⟩

/-- The next call of a program is answered. One that is over stays as it is. -/
def advance (w : Interleaving α) (provider : Provider) (i : Nat) (k : Conditions) :
    Interleaving α :=
  match w.threads[i]? with
  | some ⟨past, .call c next⟩ =>
    let (r, b) := (w.backend.under k).answer provider c
    ⟨b, w.threads.set i ⟨past ++ [⟨c, r⟩], next r⟩⟩
  | _ => w

def result? (w : Interleaving α) (i : Nat) : Option α :=
  (w.threads[i]?).bind fun t => t.rest.result?

theorem advance_of_call {i : Nat} {past : List Exchange} {c : Call} {next : c.Answer → Program α}
    (h : w.threads[i]? = some ⟨past, .call c next⟩) :
    w.advance provider i k =
      ⟨((w.backend.under k).answer provider c).2,
        w.threads.set i
          ⟨past ++ [⟨c, ((w.backend.under k).answer provider c).1⟩],
            next ((w.backend.under k).answer provider c).1⟩⟩ := by
  simp [advance, h]

theorem advance_of_result {i : Nat} {t : Thread α} {a : α} (h : w.threads[i]? = some t)
    (ended : t.rest = .done a) : w.advance provider i k = w := by
  obtain ⟨past, rest⟩ := t
  obtain rfl : rest = .done a := ended
  simp [advance, h]

theorem advance_of_none {i : Nat} (h : w.threads[i]? = none) : w.advance provider i k = w := by
  simp [advance, h]

theorem threads_advance_of_ne {i j : Nat} (h : i ≠ j) :
    (w.advance provider i k).threads[j]? = w.threads[j]? := by
  unfold advance
  split
  · exact List.getElem?_set_ne h
  · rfl

theorem result?_eq_some_iff {i : Nat} {a : α} :
    w.result? i = some a ↔ ∃ t, w.threads[i]? = some t ∧ t.rest = .done a := by
  rw [result?, Option.bind_eq_some_iff]
  refine exists_congr fun t => and_congr_right fun _ => ?_
  cases t.rest <;> simp [Program.result?]

private theorem result?_advance {j : Nat} {a : α} (h : w.result? j = some a) (i : Nat) :
    (w.advance provider i k).result? j = some a := by
  by_cases hij : i = j
  · obtain ⟨t, ht, ended⟩ := result?_eq_some_iff.mp h
    rwa [advance_of_result (hij ▸ ht) ended]
  · rwa [result?, threads_advance_of_ne hij]

/-- What a turn can do: nothing, or to answer the next call of the program whose turn it is. -/
theorem advance_cases (w : Interleaving α) (provider : Provider) (i : Nat) (k : Conditions) :
    w.advance provider i k = w ∨
      ∃ past c next, w.threads[i]? = some ⟨past, .call c next⟩ ∧
        w.advance provider i k =
          ⟨((w.backend.under k).answer provider c).2,
            w.threads.set i
              ⟨past ++ [⟨c, ((w.backend.under k).answer provider c).1⟩],
                next ((w.backend.under k).answer provider c).1⟩⟩ := by
  cases ht : w.threads[i]? with
  | none => exact .inl (advance_of_none ht)
  | some t =>
    obtain ⟨past, rest⟩ := t
    cases rest with
    | done a => exact .inl (advance_of_result ht rfl)
    | call c next => exact .inr ⟨past, c, next, rfl, advance_of_call ht⟩

/-- Turns one after another, each given by the program that has it and the conditions of the answer. -/
def run (provider : Provider) (w : Interleaving α) (turns : List (Nat × Conditions)) :
    Interleaving α :=
  turns.foldl (fun w t => w.advance provider t.1 t.2) w

theorem run_cons (provider : Provider) (w : Interleaving α) (t : Nat × Conditions)
    (turns : List (Nat × Conditions)) :
    w.run provider (t :: turns) = (w.advance provider t.1 t.2).run provider turns := rfl

/-- What every turn keeps holds after all of them. -/
theorem run_keeps {J : Interleaving α → Prop} (provider : Provider)
    (turns : List (Nat × Conditions)) (initial : J w)
    (keep : ∀ w, ∀ t ∈ turns, J w → J (w.advance provider t.1 t.2)) :
    J (w.run provider turns) := by
  induction turns generalizing w with
  | nil => exact initial
  | cons t turns ih =>
    exact ih (keep w t List.mem_cons_self initial) fun w u hu =>
      keep w u (List.mem_cons_of_mem t hu)

private theorem result?_run {i : Nat} {a : α} (h : w.result? i = some a)
    (turns : List (Nat × Conditions)) : (w.run provider turns).result? i = some a :=
  run_keeps (J := fun w => w.result? i = some a) provider turns h fun _ t _ h =>
    result?_advance h t.1

theorem length_run (w : Interleaving α) (provider : Provider) (turns : List (Nat × Conditions)) :
    (w.run provider turns).threads.length = w.threads.length := by
  refine run_keeps (J := fun v : Interleaving α => v.threads.length = w.threads.length) provider
    turns rfl fun v u _ h => ?_
  rcases v.advance_cases provider u.1 u.2 with same | ⟨past, c, next, _, moved⟩
  · rwa [same]
  · rw [moved, List.length_set, h]

theorem past_run {i : Nat} {t : Thread α} (ht : w.threads[i]? = some t)
    (turns : List (Nat × Conditions)) :
    (∃ r, (w.run provider turns).result? i = some r) ∨
      ∃ t', (w.run provider turns).threads[i]? = some t' ∧
        t'.past.length = t.past.length + turns.countP fun u => u.1 = i := by
  induction turns generalizing w t with
  | nil => exact .inr ⟨t, ht, rfl⟩
  | cons u turns ih =>
    by_cases hu : u.1 = i
    · subst hu
      obtain ⟨past, rest⟩ := t
      cases rest with
      | done r =>
        have ended : w.result? u.1 = some r := result?_eq_some_iff.mpr ⟨_, ht, rfl⟩
        exact .inl ⟨r, result?_run ended (u :: turns)⟩
      | call c next =>
        obtain ⟨hi, _⟩ := List.getElem?_eq_some_iff.mp ht
        have moved : (w.advance provider u.1 u.2).threads[u.1]? = _ :=
          congrArg (fun v : Interleaving α => v.threads[u.1]?) (advance_of_call ht)
        rw [List.getElem?_set_self hi] at moved
        refine (ih moved).imp_right fun ⟨t', ht', hlength⟩ => ⟨t', ht', ?_⟩
        rw [hlength, List.length_append, List.length_singleton, List.countP_cons_of_pos (by simp)]
        exact Nat.add_right_comm _ _ _
    · have still : (w.advance provider u.1 u.2).threads[i]? = some t :=
        (threads_advance_of_ne hu).trans ht
      rw [List.countP_cons_of_neg (by simpa using hu)]
      exact ih still

end Interleaving

end MeetingInsights
