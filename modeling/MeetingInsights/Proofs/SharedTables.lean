import Mathlib.Data.List.Perm.Basic
import MeetingInsights.Proofs.LaterStores

/-! # Tables that programs share

A table to which each call adds what its exchange records. After any number of turns it holds,
besides what was there before, just what all programs have recorded, and what one of them has
recorded stands in it in the order in which it was recorded.
-/

namespace MeetingInsights

variable {α β : Type} {rows : Store → List β} {trace : Exchange → Option β}

/-- Each call that is performed adds to a table what the exchange records. -/
def Store.GrowsBy (rows : Store → List β) (trace : Exchange → Option β) : Prop :=
  ∀ (b : Backend) (provider : Provider) (c : Call),
    rows (b.perform provider c).2.store =
      rows b.store ++ (trace ⟨c, (b.perform provider c).1⟩).toList

private theorem perm_flatMap_set {γ : Type} {f : γ → List β} {l : List γ} {i : Nat} {a a' : γ}
    {more : List β} (h : l[i]? = some a) (grown : f a' = f a ++ more) :
    ((l.set i a').flatMap f).Perm (l.flatMap f ++ more) := by
  induction l generalizing i with
  | nil => cases h
  | cons x l ih =>
    cases i with
    | zero =>
      obtain rfl : x = a := Option.some.inj h
      rw [List.set_cons_zero, List.flatMap_cons, List.flatMap_cons, grown, List.append_assoc,
        List.append_assoc]
      exact List.perm_append_comm.append_left (f x)
    | succ i =>
      rw [List.set_cons_succ, List.flatMap_cons, List.flatMap_cons, List.append_assoc]
      exact (ih h).append_left (f x)

private theorem flatMap_eq_of_others {γ : Type} {f : γ → List β} {l : List γ} {i : Nat} {a : γ}
    (h : l[i]? = some a) (others : ∀ j x, j ≠ i → l[j]? = some x → f x = []) :
    l.flatMap f = f a := by
  induction l generalizing i with
  | nil => cases h
  | cons x l ih =>
    rw [List.flatMap_cons]
    cases i with
    | zero =>
      obtain rfl : x = a := Option.some.inj h
      have rest : l.flatMap f = [] := List.flatMap_eq_nil_iff.mpr fun y hy => by
        obtain ⟨j, hj⟩ := List.getElem?_of_mem hy
        exact others (j + 1) y (by simp) hj
      rw [rest, List.append_nil]
    | succ i =>
      rw [others 0 x (by simp) rfl, List.nil_append]
      exact ih h fun j y hj hy => others (j + 1) y (by simpa using hj) hy

/-- What stands in a list among others is all that stands there of its kind, if there is no more of
it. -/
theorem filter_eq_of_sublist {p : β → Bool} {part l : List β} (sub : part.Sublist l)
    (kind : ∀ x ∈ part, p x = true) (only : (l.filter p).length ≤ part.length) :
    l.filter p = part := by
  have all : part.filter p = part := List.filter_eq_self.mpr kind
  have within : part.Sublist (l.filter p) := all ▸ sub.filter p
  exact (within.eq_of_length_le only).symm

namespace Interleaving

variable {s : Store} {w : Interleaving α} {provider : Provider}

def exchanges (w : Interleaving α) : List Exchange := w.threads.flatMap Thread.past

/-- A table holds what was in it at the store `s` and what the programs have recorded since. -/
structure Shares (rows : Store → List β) (trace : Exchange → Option β) (s : Store)
    (w : Interleaving α) : Prop where
  all : (rows w.backend.store).Perm (rows s ++ w.exchanges.filterMap trace)
  kept : rows s <+: rows w.backend.store
  each : ∀ t ∈ w.threads, (rows s ++ t.past.filterMap trace).Sublist (rows w.backend.store)

theorem shares_launched (b : Backend) (programs : List (Program α)) :
    (launched b programs).Shares rows trace b.store where
  all := by
    have nothing : (launched b programs).exchanges = [] := by
      simp [launched, exchanges, List.flatMap_map, List.flatMap_eq_nil_iff]
    rw [nothing, List.filterMap_nil, List.append_nil]
    rfl
  kept := List.prefix_rfl
  each t ht := by
    obtain ⟨p, _, rfl⟩ := List.mem_map.mp ht
    simp [launched]

theorem Shares.advance (h : w.Shares rows trace s) (grows : Store.GrowsBy rows trace)
    (provider : Provider) (i : Nat) {k : Conditions} (calm : k.faults = []) :
    (w.advance provider i k).Shares rows trace s := by
  rcases w.advance_cases provider i k with same | ⟨past, c, next, turn, moved⟩
  · rwa [same]
  · rw [moved, Backend.answer_of_faultless (by exact calm)]
    have added := grows (w.backend.under k) provider c
    generalize (w.backend.under k).perform provider c = performed at added ⊢
    obtain ⟨r, b⟩ := performed
    replace added : rows b.store = rows w.backend.store ++ (trace ⟨c, r⟩).toList := added
    refine ⟨?_, ?_, fun t ht => ?_⟩
    · have exchanged : (Interleaving.exchanges ⟨b, w.threads.set i ⟨past ++ [⟨c, r⟩], next r⟩⟩).Perm
          (w.exchanges ++ [⟨c, r⟩]) := perm_flatMap_set turn rfl
      have recorded := exchanged.filterMap trace
      rw [List.filterMap_append] at recorded
      rw [added]
      refine (h.all.append_right _).trans ?_
      rw [List.append_assoc]
      refine List.Perm.append_left _ (List.Perm.trans ?_ recorded.symm)
      cases hx : trace ⟨c, r⟩ <;> simp [hx]
    · exact h.kept.trans (added ▸ List.prefix_append _ _)
    · rw [added]
      rcases List.mem_or_eq_of_mem_set ht with ht | rfl
      · exact (h.each t ht).trans (List.sublist_append_left _ _)
      · rw [List.filterMap_append, ← List.append_assoc]
        refine (h.each _ (List.mem_of_getElem? turn)).append ?_
        cases hx : trace ⟨c, r⟩ <;> simp [hx]

theorem Shares.run (h : w.Shares rows trace s) (grows : Store.GrowsBy rows trace)
    (provider : Provider) {turns : List (Nat × Conditions)} (calm : ∀ u ∈ turns, u.2.faults = []) :
    (w.run provider turns).Shares rows trace s :=
  run_keeps provider turns h fun _ u hu h => h.advance grows provider u.1 (calm u hu)

/-- If some of what has been recorded is all of a kind, the table has just that of the kind besides
what it had before. -/
theorem Shares.filter (h : w.Shares rows trace s) {p : β → Bool} {part : List β}
    (stands : (rows s ++ part).Sublist (rows w.backend.store)) (kind : ∀ y ∈ part, p y = true)
    (only : (w.exchanges.filterMap trace).filter p = part) :
    (rows w.backend.store).filter p = (rows s).filter p ++ part := by
  have all : part.filter p = part := List.filter_eq_self.mpr kind
  have within : ((rows s).filter p ++ part).Sublist ((rows w.backend.store).filter p) := by
    rw [← all, ← List.filter_append]
    exact stands.filter p
  -- Nothing else is of the kind: the two have the same length.
  refine (within.eq_of_length ?_).symm
  rw [(h.all.filter p).length_eq, List.filter_append, only]

theorem filter_exchanges (w : Interleaving α) (p : β → Bool) :
    (w.exchanges.filterMap trace).filter p =
      w.threads.flatMap fun t => (t.past.filterMap trace).filter p := by
  rw [exchanges, List.filterMap_flatMap, List.filter_flatMap]

theorem Shares.filter_of_none (h : w.Shares rows trace s) {p : β → Bool}
    (none : ∀ t ∈ w.threads, ∀ y ∈ t.past.filterMap trace, p y = false) :
    (rows w.backend.store).filter p = (rows s).filter p := by
  have only : (w.exchanges.filterMap trace).filter p = [] := by
    rw [filter_exchanges, List.flatMap_eq_nil_iff]
    exact fun t ht => List.filter_eq_nil_iff.mpr fun y hy => by simp [none t ht y hy]
  have kept : (rows s ++ []).Sublist (rows w.backend.store) := by
    rw [List.append_nil]
    exact h.kept.sublist
  rw [h.filter kept (by simp) only, List.append_nil]

/-- What is of a kind that only one program records has been recorded by it, in its order. -/
theorem Shares.filter_of_one (h : w.Shares rows trace s) {p : β → Bool} {i : Nat} {t : Thread α}
    (stands : w.threads[i]? = some t) (kind : ∀ y ∈ t.past.filterMap trace, p y = true)
    (others : ∀ j u, j ≠ i → w.threads[j]? = some u →
      ∀ y ∈ u.past.filterMap trace, p y = false) :
    (rows w.backend.store).filter p = (rows s).filter p ++ t.past.filterMap trace := by
  refine h.filter (h.each t (List.mem_of_getElem? stands)) kind ?_
  rw [filter_exchanges, flatMap_eq_of_others stands fun j u hj hu =>
    List.filter_eq_nil_iff.mpr fun y hy => by simp [others j u hj hu y hy]]
  exact List.filter_eq_self.mpr kind

end Interleaving

end MeetingInsights
