import MeetingInsights.Proofs.Interleavings
import MeetingInsights.Proofs.ReachableStores

/-! # Later stores

A store becomes another by calls, whoever makes them and whatever disturbs them. Opportunities,
themes and evidence are only added, so what is stored stays stored. A program that no fault disturbs
is answered in stores of which each leads to the next, however many others are at work in between.
Whatever disturbs a program, each of its calls was answered before the store became what it is.
-/

namespace MeetingInsights

variable {α : Type} {s t u : Store} {b : Backend} {xs ys : List Exchange}

namespace Backend.Effect

theorem opportunities (h : b.Effect t) : b.store.opportunities <+: t.opportunities := by
  cases h with
  | addOpportunity draft => exact List.prefix_append _ _
  | nothing | createMeeting | moveMeeting | addTheme | addEvidence => exact List.prefix_rfl

theorem themes (h : b.Effect t) : b.store.themes <+: t.themes := by
  cases h with
  | addTheme name => exact List.prefix_append _ _
  | nothing | createMeeting | moveMeeting | addOpportunity | addEvidence => exact List.prefix_rfl

theorem evidence (h : b.Effect t) : b.store.evidence <+: t.evidence := by
  cases h with
  | addEvidence draft => exact List.prefix_append _ _
  | nothing | createMeeting | moveMeeting | addOpportunity | addTheme => exact List.prefix_rfl

end Backend.Effect

theorem MeetingTable.find?_isSome_iff {table : MeetingTable} {id : Uuid} :
    (table.find? id).isSome ↔ id ∈ table.rows.map Meeting.id := by
  simp [MeetingTable.find?, List.find?_isSome]

theorem MeetingTable.map_id_replace (table : MeetingTable) (m : Meeting) :
    (table.replace m).rows.map Meeting.id = table.rows.map Meeting.id :=
  MeetingTable.map_id_replaced m table.rows

theorem Backend.Effect.meetings (h : b.Effect t) :
    b.store.meetings.rows.map Meeting.id <+: t.meetings.rows.map Meeting.id := by
  cases h with
  | createMeeting draft =>
    simp only [Store.createMeeting, MeetingTable.insert]
    split
    · exact (MeetingTable.map_id_replace _ _).symm ▸ List.prefix_rfl
    · rw [List.map_append]
      exact List.prefix_append _ _
  | moveMeeting status message =>
    exact (MeetingTable.map_id_replace _ _).symm ▸ List.prefix_rfl
  | nothing | addOpportunity | addTheme | addEvidence => exact List.prefix_rfl

namespace Store

/-- One store leads to another by calls. Faults, time and supply may be any at each of them. -/
inductive Leads (s : Store) : Store → Prop where
  | refl : Leads s s
  | answer {b : Backend} (provider : Provider) (c : Call) (before : Leads s b.store) :
      Leads s (b.answer provider c).2.store

namespace Leads

theorem trans (h : s.Leads t) (k : t.Leads u) : s.Leads u := by
  induction k with
  | refl => exact h
  | answer provider c _ ih => exact .answer provider c ih

theorem prefix_of_effect {β : Type} (rows : Store → List β)
    (keep : ∀ {b : Backend} {t : Store}, b.Effect t → rows b.store <+: rows t) (h : s.Leads t) :
    rows s <+: rows t := by
  induction h with
  | refl => exact List.prefix_rfl
  | answer provider c _ ih => exact ih.trans (keep (Backend.effect_answer _ provider c))

theorem opportunities (h : s.Leads t) : s.opportunities <+: t.opportunities :=
  h.prefix_of_effect _ Backend.Effect.opportunities

theorem themes (h : s.Leads t) : s.themes <+: t.themes := h.prefix_of_effect _ Backend.Effect.themes

theorem evidence (h : s.Leads t) : s.evidence <+: t.evidence :=
  h.prefix_of_effect _ Backend.Effect.evidence

theorem hasMeeting (h : s.Leads t) {id : Uuid} (stored : (s.meetings.find? id).isSome) :
    (t.meetings.find? id).isSome := by
  rw [MeetingTable.find?_isSome_iff] at stored ⊢
  exact (h.prefix_of_effect (fun s => s.meetings.rows.map Meeting.id)
    Backend.Effect.meetings).subset stored

end Leads

/-- Calls that were answered without a fault, each in a store that this one leads to. Whoever else
is at work has made calls in between. -/
def AnsweredAfter (s : Store) (xs : List Exchange) : Prop :=
  ∀ x ∈ xs, ∃ (b : Backend) (provider : Provider), s.Leads b.store ∧
    x.answer = (b.perform provider x.call).1

theorem answeredAfter_append :
    s.AnsweredAfter (xs ++ ys) ↔ s.AnsweredAfter xs ∧ s.AnsweredAfter ys :=
  List.forall_mem_append

/-- Calls that were performed on the way from one store to another, one after another. Whoever else
is at work has made calls before, in between and after. -/
inductive Performs : Store → List Exchange → Store → Prop where
  | idle {s t : Store} (h : s.Leads t) : Performs s [] t
  | perform {s t : Store} {b : Backend} {xs : List Exchange} (provider : Provider) (c : Call)
      (calm : b.faults = []) (before : s.Leads b.store)
      (rest : Performs (b.perform provider c).2.store xs t) :
      Performs s (⟨c, (b.perform provider c).1⟩ :: xs) t

theorem leads_perform (calm : b.faults = []) (provider : Provider) (c : Call) :
    b.store.Leads (b.perform provider c).2.store := by
  rw [← Backend.answer_of_faultless calm]
  exact .answer provider c .refl

namespace Performs

theorem leads (h : s.Performs xs t) : s.Leads t := by
  induction h with
  | idle h => exact h
  | perform provider c calm before _ ih =>
    exact before.trans ((leads_perform calm provider c).trans ih)

theorem later (h : s.Performs xs t) (k : t.Leads u) : s.Performs xs u := by
  induction h with
  | idle h => exact .idle (h.trans k)
  | perform provider c calm before _ ih => exact .perform provider c calm before (ih k)

theorem snoc (h : s.Performs xs b.store) (calm : b.faults = []) (provider : Provider) (c : Call) :
    s.Performs (xs ++ [⟨c, (b.perform provider c).1⟩]) (b.perform provider c).2.store := by
  generalize hb : b.store = t at h
  induction h with
  | idle h => exact .perform provider c calm (hb ▸ h) (.idle .refl)
  | perform provider' c' calm' before _ ih => exact .perform provider' c' calm' before (ih hb)

theorem split (h : s.Performs (xs ++ ys) u) : ∃ t, s.Performs xs t ∧ t.Performs ys u := by
  induction xs generalizing s with
  | nil => exact ⟨s, .idle .refl, h⟩
  | cons x xs ih =>
    cases h with
    | perform provider c calm before rest =>
      obtain ⟨t, first, second⟩ := ih rest
      exact ⟨t, .perform provider c calm before first, second⟩

theorem uncons {x : Exchange} (h : s.Performs (x :: xs) u) :
    ∃ t, s.Performs [x] t ∧ t.Performs xs u := by
  rw [← List.singleton_append] at h
  exact h.split

theorem one {c : Call} {r : c.Answer} (h : s.Performs [⟨c, r⟩] t) :
    ∃ (b : Backend) (provider : Provider), s.Leads b.store ∧ r = (b.perform provider c).1 ∧
      (b.perform provider c).2.store.Leads t := by
  cases h with
  | perform provider c calm before rest => exact ⟨_, provider, before, rfl, rest.leads⟩

private theorem answeredAfter (h : s.Performs xs t) : s.AnsweredAfter xs := by
  induction h with
  | idle => exact fun x hx => (List.not_mem_nil hx).elim
  | @perform s t b xs provider c calm before _ ih =>
    refine fun x hx => ?_
    rcases List.mem_cons.mp hx with rfl | hx
    · exact ⟨b, provider, before, rfl⟩
    · obtain ⟨b', provider', later, hx⟩ := ih x hx
      exact ⟨b', provider', before.trans ((leads_perform calm provider c).trans later), hx⟩

end Performs

theorem AnsweredAfter.earlier (h : t.AnsweredAfter xs) (k : s.Leads t) : s.AnsweredAfter xs := by
  intro x hx
  obtain ⟨b, provider, later, hr⟩ := h x hx
  exact ⟨b, provider, k.trans later, hr⟩

/-- Calls that were answered before a store became what it is. Anything may have disturbed them, and
whoever else is at work has made calls in between. -/
def AnsweredBefore (t : Store) (xs : List Exchange) : Prop :=
  ∀ x ∈ xs, ∃ (b : Backend) (provider : Provider), x.answer = (b.answer provider x.call).1 ∧
    (b.answer provider x.call).2.store.Leads t

theorem AnsweredBefore.later (h : s.AnsweredBefore xs) (k : s.Leads t) : t.AnsweredBefore xs := by
  intro x hx
  obtain ⟨b, provider, hr, before⟩ := h x hx
  exact ⟨b, provider, hr, before.trans k⟩

theorem answeredBefore_nil (t : Store) : t.AnsweredBefore [] := fun _ hx =>
  (List.not_mem_nil hx).elim

theorem answeredBefore_append :
    t.AnsweredBefore (xs ++ ys) ↔ t.AnsweredBefore xs ∧ t.AnsweredBefore ys :=
  List.forall_mem_append

theorem answeredBefore_one (b : Backend) (provider : Provider) (c : Call) :
    (b.answer provider c).2.store.AnsweredBefore [⟨c, (b.answer provider c).1⟩] := by
  intro x hx
  obtain rfl := List.mem_singleton.mp hx
  exact ⟨b, provider, rfl, .refl⟩

end Store

namespace Program

theorem leads_run (p : Program α) (provider : Provider) (b : Backend) :
    b.store.Leads (p.run provider b).2.store := by
  induction p generalizing b with
  | done a => exact .refl
  | call c next ih =>
    have first : b.store.Leads (b.answer provider c).2.store := .answer provider c .refl
    exact first.trans (ih _ _)

theorem takes_run (p : Program α) (provider : Provider) (b : Backend) :
    ∃ xs, p.Takes xs (some (p.run provider b).1) ∧
      (p.run provider b).2.store.AnsweredBefore xs := by
  induction p generalizing b with
  | done a => exact ⟨[], takes_done_iff.mpr ⟨rfl, rfl⟩, Store.answeredBefore_nil _⟩
  | call c next ih =>
    obtain ⟨xs, takes, before⟩ := ih (b.answer provider c).1 (b.answer provider c).2
    have first := (Store.answeredBefore_one b provider c).later
      ((next (b.answer provider c).1).leads_run provider (b.answer provider c).2)
    exact ⟨_, takes_call_iff.mpr (.inr ⟨_, xs, rfl, takes⟩),
      Store.answeredBefore_append.mpr ⟨first, before⟩⟩

end Program

namespace Interleaving

variable {w : Interleaving α} {i : Nat}

theorem leads_run (w : Interleaving α) (provider : Provider) (turns : List (Nat × Conditions)) :
    w.backend.store.Leads (w.run provider turns).backend.store := by
  refine run_keeps (J := fun v : Interleaving α => w.backend.store.Leads v.backend.store) provider
    turns .refl fun v u _ h => ?_
  rcases v.advance_cases provider u.1 u.2 with same | ⟨past, c, next, _, moved⟩
  · rwa [same]
  · rw [moved]
    have before : w.backend.store.Leads (v.backend.under u.2).store := h
    exact .answer provider c before

/-- Beside a program that no fault disturbs any others may be at work, with faults of their own. -/
theorem performs_run (provider : Provider) {t : Thread α} (stands : w.threads[i]? = some t)
    {turns : List (Nat × Conditions)} (calm : ∀ u ∈ turns, u.1 = i → u.2.faults = []) :
    ∃ xs rest, (w.run provider turns).threads[i]? = some ⟨t.past ++ xs, rest⟩ ∧
      t.rest.Leaves xs rest ∧
      w.backend.store.Performs xs (w.run provider turns).backend.store := by
  refine run_keeps (J := fun v : Interleaving α => ∃ xs rest,
      v.threads[i]? = some ⟨t.past ++ xs, rest⟩ ∧ t.rest.Leaves xs rest ∧
        w.backend.store.Performs xs v.backend.store)
    provider turns ⟨[], t.rest, by rw [List.append_nil, stands], .all _, .idle .refl⟩
    fun v u hu h => ?_
  obtain ⟨xs, rest, stands, leaves, performs⟩ := h
  rcases v.advance_cases provider u.1 u.2 with same | ⟨past, c, next, turn, moved⟩
  · rw [same]
    exact ⟨xs, rest, stands, leaves, performs⟩
  · rw [moved]
    have before : w.backend.store.Performs xs (v.backend.under u.2).store := performs
    by_cases hi : u.1 = i
    · subst hi
      obtain ⟨rfl, rfl⟩ := Thread.mk.inj (Option.some.inj (turn.symm.trans stands))
      obtain ⟨hlt, _⟩ := List.getElem?_eq_some_iff.mp stands
      have faultless : (v.backend.under u.2).faults = [] := calm u hu rfl
      rw [Backend.answer_of_faultless faultless]
      refine ⟨xs ++ [⟨c, ((v.backend.under u.2).perform provider c).1⟩], _, ?_, leaves.snoc _,
        before.snoc faultless provider c⟩
      rw [List.getElem?_set_self hlt, List.append_assoc]
    · exact ⟨xs, rest, (List.getElem?_set_ne hi).trans stands, leaves,
        before.later (.answer provider c .refl)⟩

/-- The same for a program that may be disturbed like all others: its calls have been answered. -/
theorem answeredBefore_run (provider : Provider) {t : Thread α} (stands : w.threads[i]? = some t)
    (turns : List (Nat × Conditions)) :
    ∃ xs rest, (w.run provider turns).threads[i]? = some ⟨t.past ++ xs, rest⟩ ∧
      t.rest.Leaves xs rest ∧ (w.run provider turns).backend.store.AnsweredBefore xs := by
  refine run_keeps (J := fun v : Interleaving α => ∃ xs rest,
      v.threads[i]? = some ⟨t.past ++ xs, rest⟩ ∧ t.rest.Leaves xs rest ∧
        v.backend.store.AnsweredBefore xs)
    provider turns ⟨[], t.rest, by rw [List.append_nil, stands], .all _,
      Store.answeredBefore_nil _⟩ fun v u _ h => ?_
  obtain ⟨xs, rest, stands, leaves, before⟩ := h
  rcases v.advance_cases provider u.1 u.2 with same | ⟨past, c, next, turn, moved⟩
  · rw [same]
    exact ⟨xs, rest, stands, leaves, before⟩
  · rw [moved]
    have leads : (v.backend.under u.2).store.Leads
        ((v.backend.under u.2).answer provider c).2.store := .answer provider c .refl
    have earlier := Store.AnsweredBefore.later before leads
    by_cases hi : u.1 = i
    · subst hi
      obtain ⟨rfl, rfl⟩ := Thread.mk.inj (Option.some.inj (turn.symm.trans stands))
      obtain ⟨hlt, _⟩ := List.getElem?_eq_some_iff.mp stands
      have answered := Store.answeredBefore_one (v.backend.under u.2) provider c
      refine ⟨xs ++ [⟨c, ((v.backend.under u.2).answer provider c).1⟩], _, ?_, leaves.snoc _,
        Store.answeredBefore_append.mpr ⟨earlier, answered⟩⟩
      rw [List.getElem?_set_self hlt, List.append_assoc]
    · exact ⟨xs, rest, (List.getElem?_set_ne hi).trans stands, leaves, earlier⟩

theorem answeredAfter_run (provider : Provider) {t : Thread α} (later : s.Leads w.backend.store)
    (stands : w.threads[i]? = some t) {turns : List (Nat × Conditions)}
    (calm : ∀ u ∈ turns, u.1 = i → u.2.faults = []) :
    ∃ xs rest, (w.run provider turns).threads[i]? = some ⟨t.past ++ xs, rest⟩ ∧
      t.rest.Leaves xs rest ∧ s.AnsweredAfter xs := by
  obtain ⟨xs, rest, stands', leaves, performs⟩ := performs_run provider stands calm
  exact ⟨xs, rest, stands', leaves, performs.answeredAfter.earlier later⟩

end Interleaving

end MeetingInsights
