import MeetingInsights.Proofs.BackendRecords
import MeetingInsights.Proofs.ParallelJobs

/-! # Jobs under way without faults

What a job in the middle of its course knows about a backend that disturbs nothing: the meeting that
it has fetched is its own and stays stored, and once it is over after its question, its meeting is
terminal.
-/

namespace MeetingInsights.Job

/-- A job under way over a backend: its exchanges leave the rest of it, and a meeting that it has
fetched is its own and is stored. -/
structure UnderWay (b : Backend) (id : Uuid) (xs : List Exchange) (rest : Program Outcome) :
    Prop where
  leaves : (process id).Leaves xs rest
  fetched : ∀ m, (⟨.fetchMeeting id, .ok m⟩ : Exchange) ∈ xs →
    m.id = id ∧ ∃ s, b.store.statusOf? id = some s

variable {b b' : Backend} {id : Uuid} {xs : List Exchange} {rest : Program Outcome} {c : Call}
  {next : c.Answer → Program Outcome}

theorem underWay_process (b : Backend) (id : Uuid) : UnderWay b id [] (process id) :=
  ⟨.all _, by simp⟩

theorem UnderWay.mono (h : UnderWay b id xs rest)
    (stored : ∀ s, b.store.statusOf? id = some s → ∃ t, b'.store.statusOf? id = some t) :
    UnderWay b' id xs rest where
  leaves := h.leaves
  fetched m hm := by
    obtain ⟨hid, s, hs⟩ := h.fetched m hm
    exact ⟨hid, stored s hs⟩

theorem UnderWay.takes (h : UnderWay b id xs rest) : (process id).Takes xs rest.result? :=
  h.leaves.takes

theorem UnderWay.statuses (h : UnderWay b id xs (.call c next)) (provider : Provider) :
    (∀ j, j ≠ id → (b.answer provider c).2.store.statusOf? j = b.store.statusOf? j) ∧
      ∀ j s, b.store.statusOf? j = some s →
        ∃ t, (b.answer provider c).2.store.statusOf? j = some t := by
  have isTrue : (⟨id, xs, .call c next⟩ : Ongoing).IsTrue := h.leaves
  rcases isTrue.moves provider b with ⟨status, hm⟩ | ⟨hs, _⟩
  · refine ⟨fun j hj => (hm.new j).trans (if_neg hj), fun j s hsome => ?_⟩
    by_cases hj : j = id
    · exact ⟨status, (hm.new j).trans (if_pos hj)⟩
    · exact ⟨s, ((hm.new j).trans (if_neg hj)).trans hsome⟩
  · exact ⟨fun j _ => hs j, fun j s hsome => ⟨s, (hs j).trans hsome⟩⟩

theorem UnderWay.answer (h : UnderWay b id xs (.call c next)) (hb : b.faults = [])
    (provider : Provider) :
    UnderWay (b.answer provider c).2 id (xs ++ [⟨c, (b.answer provider c).1⟩])
      (next (b.answer provider c).1) where
  leaves := h.leaves.snoc _
  fetched m hm := by
    rcases List.mem_append.mp hm with hm | hm
    · obtain ⟨hid, s, hs⟩ := h.fetched m hm
      exact ⟨hid, (h.statuses provider).2 id s hs⟩
    · have same := List.mem_singleton.mp hm
      obtain rfl : .fetchMeeting id = c := congrArg Exchange.call same
      have answered := eq_of_heq (Exchange.mk.inj same).2
      rw [Backend.answer_of_faultless hb] at answered ⊢
      have found := Store.fetchMeeting_eq_ok answered.symm
      exact ⟨MeetingTable.find?_eq_some found, m.status,
        Store.statusOf?_eq_some.mpr ⟨m, found, rfl⟩⟩

theorem UnderWay.stored (h : UnderWay b id xs rest) (asked : questionsAsked xs ≠ []) :
    ∃ s, b.store.statusOf? id = some s := by
  rcases (course_of_takes h.takes).asks with plain | ⟨ys, m, roster, a, zs, rfl, _, fetched, _⟩
  · exact (asked (nothing_of_isPlain plain).1).elim
  · exact (h.fetched m (List.mem_append_left _ fetched)).2

theorem UnderWay.id_of_extract {m : Meeting} {roster : List RosterEntry}
    {next : (Call.extract m roster).Answer → Program Outcome}
    (h : UnderWay b id xs (.call (.extract m roster) next)) :
    (∀ x ∈ xs, x.call.IsPlain) ∧ m.id = id := by
  rcases asks_next h.leaves with ⟨_, hc⟩ | ⟨plain, hplain | ⟨m', roster', hc, fetched⟩⟩
  · exact (hc m roster rfl).elim
  · exact hplain.elim
  · cases hc
    exact ⟨plain, (h.fetched m fetched).1⟩

theorem UnderWay.meetingId_of_evidence (h : UnderWay b id xs (.call c next)) {r : c.Answer}
    {draft : EvidenceDraft} (hd : Exchange.evidence? ⟨c, r⟩ = some draft) :
    draft.meetingId = id := by
  obtain rfl : c = .addEvidence draft := Exchange.evidence?_eq_some hd
  rcases next_of_leaves h.leaves with ⟨_, hc⟩ | ⟨_, _, _, _, hfollow⟩
  · cases hc
  · exact hfollow

/-- A job that has asked about its meeting and comes to its end leaves the meeting terminal. -/
theorem UnderWay.terminal (h : UnderWay b id xs (.call c next)) (hb : b.faults = [])
    {provider : Provider} {o : Outcome}
    (asked : questionsAsked (xs ++ [⟨c, (b.answer provider c).1⟩]) ≠ [])
    (ended : next (b.answer provider c).1 = .done o) :
    ∃ s, (b.answer provider c).2.store.statusOf? id = some s ∧ s.isTerminal = true := by
  have takes := (h.answer hb provider).takes
  rw [ended] at takes
  rcases (course_of_takes takes).closes with ⟨_, r, _, hxs⟩ | ⟨ys, status, message, r, hxs, hs, _⟩
  · rw [hxs] at asked
    exact (asked rfl).elim
  · obtain ⟨_, hx⟩ := List.append_inj' hxs rfl
    obtain rfl : c = .updateStatus id status message :=
      congrArg Exchange.call (List.singleton_inj.mp hx)
    rw [questionsAsked_append] at asked
    obtain ⟨s, hstored⟩ := h.stored fun hnone => asked (by rw [hnone]; rfl)
    exact Backend.isTerminal_answer_updateStatus hb hstored hs message

theorem answer_process_of_terminal (hb : b.faults = []) {s : Status}
    (hs : b.store.statusOf? id = some s) (hterm : s.isTerminal = true) (provider : Provider)
    (hc : .call c next = process id) :
    c.IsPlain ∧ next (b.answer provider c).1 = .done .skipped ∧ (b.answer provider c).2 = b := by
  cases hc
  rw [Backend.answer_updateStatus_of_terminal hb hs hterm]
  exact ⟨trivial, rfl, rfl⟩

end MeetingInsights.Job
