import MeetingInsights.Proofs.LaterStores

/-! # Rows of meetings

What a call can do to the table of meetings, said with the call that does it: a meeting is added, or
one that is open moves to a status. What a meeting has been created with never changes.
-/

namespace MeetingInsights

/-- Two records of a meeting that agree in all that it has been created with. -/
structure Meeting.SameNotes (m m' : Meeting) : Prop where
  id : m'.id = m.id
  title : m'.title = m.title
  rawNotes : m'.rawNotes = m.rawNotes
  source : m'.source = m.source
  metadata : m'.metadata = m.metadata
  createdAt : m'.createdAt = m.createdAt

namespace Meeting.SameNotes

theorem refl (m : Meeting) : m.SameNotes m := ⟨rfl, rfl, rfl, rfl, rfl, rfl⟩

theorem trans {m m' m'' : Meeting} (h : m.SameNotes m') (k : m'.SameNotes m'') :
    m.SameNotes m'' where
  id := k.id.trans h.id
  title := k.title.trans h.title
  rawNotes := k.rawNotes.trans h.rawNotes
  source := k.source.trans h.source
  metadata := k.metadata.trans h.metadata
  createdAt := k.createdAt.trans h.createdAt

theorem withStatus (m : Meeting) (status : Status) (message : Option String) (now : Timestamp) :
    m.SameNotes (m.withStatus status message now) := ⟨rfl, rfl, rfl, rfl, rfl, rfl⟩

end Meeting.SameNotes

namespace MeetingTable

variable {t : MeetingTable} {m r : Meeting}

theorem mem_rows_replace (h : r ∈ (t.replace m).rows) : r = m ∨ r ∈ t.rows := by
  obtain ⟨r', mem, rfl⟩ := List.mem_map.mp h
  unfold replaced
  split
  · exact .inl rfl
  · exact .inr mem

theorem mem_rows_insert (h : r ∈ (t.insert m).rows) : r = m ∨ r ∈ t.rows := by
  unfold insert at h
  split at h
  · exact mem_rows_replace h
  · rcases List.mem_append.mp h with mem | mem
    · exact .inr mem
    · exact .inl (List.mem_singleton.mp mem)

private theorem forall₂_rows_replace {R : Meeting → Meeting → Prop} (refl : ∀ r, R r r)
    (found : t.find? r.id = some r) (same : m.id = r.id) (related : R r m) :
    List.Forall₂ R t.rows (t.replace m).rows := by
  refine List.forall₂_map_right_iff.mpr (List.forall₂_same.mpr fun x hx => ?_)
  unfold replaced
  split
  · rename_i at_
    have stored : r ∈ t.rows := List.mem_of_find?_eq_some found
    rwa [List.inj_on_of_nodup_map t.nodup hx stored (at_.trans same)]
  · exact refl x

end MeetingTable

namespace Backend

variable {b : Backend} {c : Call} {table : MeetingTable}

/-- What a call can do to the table of meetings. -/
inductive MeetingEffect (b : Backend) : Call → MeetingTable → Prop where
  | nothing {c : Call} : b.MeetingEffect c b.store.meetings
  | create (draft : MeetingDraft) :
      b.MeetingEffect (.createMeeting draft)
        (b.store.meetings.insert (Meeting.ofDraft draft b.supply.meeting b.now))
  | move {m : Meeting} (status : Status) (message : Option String)
      (found : b.store.meetings.find? m.id = some m) (isOpen : m.status.isTerminal = false) :
      b.MeetingEffect (.updateStatus m.id status message)
        (b.store.meetings.replace (m.withStatus status message b.now))

private theorem meetingEffect_perform (b : Backend) (provider : Provider) (c : Call) :
    b.MeetingEffect c (b.perform provider c).2.store.meetings := by
  by_cases created : ∃ draft, c = .createMeeting draft
  · obtain ⟨draft, rfl⟩ := created
    exact .create draft
  by_cases updated : ∃ id status message, c = .updateStatus id status message
  · obtain ⟨id, status, message, rfl⟩ := updated
    simp only [perform, Store.updateStatus]
    cases hm : b.store.meetings.find? id with
    | none => exact .nothing
    | some m =>
      obtain rfl := MeetingTable.find?_eq_some hm
      dsimp only
      cases hs : m.status.isTerminal with
      | true =>
        rw [if_pos rfl]
        exact .nothing
      | false =>
        rw [if_neg Bool.false_ne_true]
        exact .move status message hm hs
  · rw [meetings_perform (fun draft h => created ⟨draft, h⟩)
      fun id status message h => updated ⟨id, status, message, h⟩]
    exact .nothing

theorem meetingEffect_answer (b : Backend) (provider : Provider) (c : Call) :
    b.MeetingEffect c (b.answer provider c).2.store.meetings := by
  rcases answer_cases b provider c with ⟨faults, hb, _⟩ | ⟨faults, h⟩
  · rw [hb]
    exact .nothing
  · rw [h]
    exact meetingEffect_perform b provider c

theorem MeetingEffect.forall₂ {R : Meeting → Meeting → Prop} (h : b.MeetingEffect c table)
    (refl : ∀ m, R m m) (creates : ∀ draft, c ≠ .createMeeting draft)
    (moves : ∀ m status message, c = .updateStatus m.id status message →
      R m (m.withStatus status message b.now)) :
    List.Forall₂ R b.store.meetings.rows table.rows := by
  cases h with
  | nothing => exact List.forall₂_same.mpr fun m _ => refl m
  | create draft => exact (creates draft rfl).elim
  | move status message found =>
    exact MeetingTable.forall₂_rows_replace refl found rfl (moves _ status message rfl)

/-- A meeting under a new identifier is added at the end, and all others keep their notes. -/
theorem MeetingEffect.kept (h : b.MeetingEffect c table)
    (new : b.supply.meeting ∉ b.store.meetings.rows.map Meeting.id) :
    ∃ kept added, table.rows = kept ++ added ∧
      List.Forall₂ Meeting.SameNotes b.store.meetings.rows kept := by
  cases h with
  | nothing =>
    exact ⟨_, [], (List.append_nil _).symm, List.forall₂_same.mpr fun m _ => .refl m⟩
  | create draft =>
    exact ⟨_, _, MeetingTable.rows_insert_of_notMem new, List.forall₂_same.mpr fun m _ => .refl m⟩
  | move status message found =>
    exact ⟨_, [], (List.append_nil _).symm,
      MeetingTable.forall₂_rows_replace .refl found rfl (.withStatus _ status message b.now)⟩

end Backend

end MeetingInsights
