import MeetingInsights.Job
import MeetingInsights.Proofs.MergeExchanges

/-! # What a job exchanges

The course of a job, whatever answers its calls: it is begun, loads its meeting, puts it before the
provider once, merges what the provider finds, and closes with one update to a terminal status.
-/

namespace MeetingInsights

def Exchange.question? : Exchange → Option Meeting
  | ⟨.extract meeting _, _⟩ => some meeting
  | _ => none

def Exchange.findings? : Exchange → Option (List Finding)
  | ⟨.extract _ _, .ok findings⟩ => some findings
  | _ => none

/-- The meetings that exchanges have put before the provider, in order. -/
def questionsAsked (xs : List Exchange) : List Meeting := xs.filterMap Exchange.question?

def findingsGiven (xs : List Exchange) : List (List Finding) := xs.filterMap Exchange.findings?

@[simp] theorem questionsAsked_append (xs ys : List Exchange) :
    questionsAsked (xs ++ ys) = questionsAsked xs ++ questionsAsked ys := List.filterMap_append

@[simp] theorem findingsGiven_append (xs ys : List Exchange) :
    findingsGiven (xs ++ ys) = findingsGiven xs ++ findingsGiven ys := List.filterMap_append

/-- A call that neither asks the provider nor writes evidence or opportunities. -/
def Call.IsPlain : Call → Prop
  | .extract .. | .addEvidence _ | .createOpportunity _ => False
  | _ => True

theorem nothing_of_isPlain {xs : List Exchange} (h : ∀ x ∈ xs, x.call.IsPlain) :
    questionsAsked xs = [] ∧ findingsGiven xs = [] ∧ evidenceAdded xs = [] ∧
      opportunitiesCreated xs = [] := by
  refine ⟨?_, ?_, ?_, ?_⟩ <;>
  · refine filterMap_eq_nil_of_calls (fun c r hc => ?_) h
    cases c <;> first | rfl | exact hc.elim

theorem nothing_of_isMergeOf {meeting : Uuid} {xs : List Exchange}
    (h : ∀ x ∈ xs, x.call.IsMergeOf meeting) : questionsAsked xs = [] ∧ findingsGiven xs = [] := by
  constructor <;>
  · refine filterMap_eq_nil_of_calls (fun c r hc => ?_) h
    cases c <;> first | rfl | exact hc.elim

/-- Before the one question to the provider nothing is recorded, and then what it finds and what
follows. -/
theorem recorded_around {xs : List Exchange} (h : ∀ x ∈ xs, x.call.IsPlain) (m : Meeting)
    (roster : List RosterEntry) (a : (Call.extract m roster).Answer) (ys : List Exchange) :
    questionsAsked (xs ++ ⟨.extract m roster, a⟩ :: ys) = m :: questionsAsked ys ∧
      findingsGiven (xs ++ ⟨.extract m roster, a⟩ :: ys) =
        a.toOption.toList ++ findingsGiven ys ∧
      evidenceAdded (xs ++ ⟨.extract m roster, a⟩ :: ys) = evidenceAdded ys ∧
      opportunitiesCreated (xs ++ ⟨.extract m roster, a⟩ :: ys) = opportunitiesCreated ys := by
  obtain ⟨hq, hf, he, ho⟩ := nothing_of_isPlain h
  rw [questionsAsked_append, findingsGiven_append, evidenceAdded_append,
    opportunitiesCreated_append, hq, hf, he, ho]
  refine ⟨rfl, ?_, rfl, rfl⟩
  cases a <;> rfl

namespace Job

def beginCall (id : Uuid) : Call := .updateStatus id .processing none

/-- The update that closes a job, if it has been made. -/
inductive Closing (id : Uuid) (status : Status) (message : Option String) (outcome : Outcome) :
    List Exchange → Option Outcome → Prop where
  | waiting : Closing id status message outcome [] none
  | closed (r : (Call.updateStatus id status message).Answer) :
      Closing id status message outcome [⟨.updateStatus id status message, r⟩] (some outcome)

abbrev GivingUp (id : Uuid) (stage : Stage) (e : Error) : List Exchange → Option Outcome → Prop :=
  Closing id .failed (some (Text.truncateFailureMessage (stage.failure e)))
    (.failed (stage.failure e))

/-- The exchanges of a job after the answer of the provider. -/
inductive Aftermath (id : Uuid) :
    Except Error (List Finding) → List Exchange → Option Outcome → Prop where
  | unanswered {e xs o} (closing : GivingUp id .extraction e xs o) : Aftermath id (.error e) xs o
  | merging {findings xs} (merge : (Merge.apply id findings).Takes xs none) :
      Aftermath id (.ok findings) xs none
  | unmerged {findings e xs ys o} (merge : (Merge.apply id findings).Takes xs (some (.error e)))
      (closing : GivingUp id .saving e ys o) : Aftermath id (.ok findings) (xs ++ ys) o
  | merged {findings s xs ys o} (merge : (Merge.apply id findings).Takes xs (some (.ok s)))
      (closing : Closing id .done none (.done s) ys o) : Aftermath id (.ok findings) (xs ++ ys) o

/-- The exchanges of a job. -/
inductive Course (id : Uuid) : List Exchange → Option Outcome → Prop where
  | unbegun : Course id [] none
  | refused {r} (begun : isRefusal r = true) : Course id [⟨beginCall id, r⟩] (some .skipped)
  | loading {r xs o} (begun : isRefusal r = false) (load : (Job.load id).Takes xs o)
      (ho : ∀ e, o ≠ some (.error e)) : Course id (⟨beginCall id, r⟩ :: xs) none
  | unloaded {r xs ys e o} (begun : isRefusal r = false)
      (load : (Job.load id).Takes xs (some (.error e))) (closing : GivingUp id .loading e ys o) :
      Course id (⟨beginCall id, r⟩ :: (xs ++ ys)) o
  | asked {r xs m roster a ys o} (begun : isRefusal r = false)
      (load : (Job.load id).Takes xs (some (.ok (m, roster)))) (rest : Aftermath id a ys o) :
      Course id (⟨beginCall id, r⟩ :: (xs ++ ⟨.extract m roster, a⟩ :: ys)) o

theorem Closing.plain {id : Uuid} {status : Status} {message : Option String} {outcome : Outcome}
    {xs : List Exchange} {o : Option Outcome} (h : Closing id status message outcome xs o) :
    ∀ x ∈ xs, x.call.IsPlain := by
  cases h with
  | waiting => simp
  | closed r => simp [Call.IsPlain]

theorem closing_of_takes {id : Uuid} {status : Status} {message : Option String}
    {outcome : Outcome} {xs : List Exchange} {o : Option Outcome}
    (h : (Program.call (.updateStatus id status message) fun _ => .done outcome).Takes xs o) :
    Closing id status message outcome xs o := by
  rcases Program.takes_call_iff.mp h with ⟨rfl, rfl⟩ | ⟨r, ys, rfl, hys⟩
  · exact .waiting
  · obtain ⟨rfl, rfl⟩ := Program.takes_done_iff.mp hys
    exact .closed r

private theorem aftermath_of_takes_save {id : Uuid} {findings : List Finding} {xs : List Exchange}
    {o : Option Outcome} (h : (save id findings).Takes xs o) : Aftermath id (.ok findings) xs o := by
  rcases Program.takes_bind_iff.mp h with ⟨hxs, rfl⟩ | ⟨ys, zs, r, rfl, hys, hzs⟩
  · exact .merging hxs
  · cases r with
    | ok s => exact .merged hys (closing_of_takes hzs)
    | error e => exact .unmerged hys (closing_of_takes hzs)

/-- Whatever answers its calls, a job takes its course. -/
theorem course_of_takes {id : Uuid} {xs : List Exchange} {o : Option Outcome}
    (h : (process id).Takes xs o) : Course id xs o := by
  rcases Program.takes_call_iff.mp h with ⟨rfl, rfl⟩ | ⟨r, xs, rfl, hxs⟩
  · exact .unbegun
  · change Program.Takes (if isRefusal r then .done .skipped else advance id) xs o at hxs
    cases hr : isRefusal r with
    | true =>
      rw [hr, if_pos rfl] at hxs
      obtain ⟨rfl, rfl⟩ := Program.takes_done_iff.mp hxs
      exact .refused hr
    | false =>
      rw [hr, if_neg Bool.false_ne_true] at hxs
      rcases Program.takes_bind_iff.mp hxs with ⟨hload, rfl⟩ | ⟨ys, zs, loaded, rfl, hys, hzs⟩
      · exact .loading hr hload (by simp)
      · cases loaded with
        | error e => exact .unloaded hr hys (closing_of_takes hzs)
        | ok loaded =>
          obtain ⟨m, roster⟩ := loaded
          rcases Program.takes_call_iff.mp hzs with ⟨rfl, rfl⟩ | ⟨a, rest, rfl, hrest⟩
          · rw [List.append_nil]
            exact .loading hr hys (by simp)
          · cases a with
            | ok findings => exact .asked hr hys (aftermath_of_takes_save hrest)
            | error e => exact .asked hr hys (.unanswered (closing_of_takes hrest))

theorem load_exchanges {id : Uuid} {xs : List Exchange}
    {o : Option (Except Error (Meeting × List RosterEntry))} (h : (load id).Takes xs o) :
    (∀ x ∈ xs, x.call = .fetchMeeting id ∨ x.call = .roster) ∧
      ∀ m roster, o = some (.ok (m, roster)) → (⟨.fetchMeeting id, .ok m⟩ : Exchange) ∈ xs := by
  have fetch : ∀ r : (Call.fetchMeeting id).Answer, ∀ x ∈ [(⟨.fetchMeeting id, r⟩ : Exchange)],
      x.call = .fetchMeeting id ∨ x.call = .roster := by simp
  rcases Attempt.takes_bind_iff.mp h with ⟨hxs, rfl⟩ | ⟨e, hxs, rfl⟩ | ⟨ys, zs, m, rfl, hys, hzs⟩
  · obtain rfl := Attempt.takes_attempt_none_iff.mp hxs
    exact ⟨by simp, by simp⟩
  · obtain rfl := Attempt.takes_attempt_some_iff.mp hxs
    exact ⟨fetch _, by simp⟩
  · obtain rfl := Attempt.takes_attempt_some_iff.mp hys
    rcases Attempt.takes_bind_iff.mp hzs with ⟨hws, rfl⟩ | ⟨e, hws, rfl⟩ |
      ⟨vs, ws, roster, rfl, hvs, hws⟩
    · obtain rfl := Attempt.takes_attempt_none_iff.mp hws
      exact ⟨fetch _, by simp⟩
    · obtain rfl := Attempt.takes_attempt_some_iff.mp hws
      exact ⟨by simp, by simp⟩
    · obtain rfl := Attempt.takes_attempt_some_iff.mp hvs
      obtain ⟨rfl, rfl⟩ := Attempt.takes_pure_iff.mp hws
      refine ⟨by simp, ?_⟩
      rintro _ _ ⟨⟩
      simp

theorem load_plain {id : Uuid} {xs : List Exchange}
    {o : Option (Except Error (Meeting × List RosterEntry))} (h : (load id).Takes xs o) :
    ∀ x ∈ xs, x.call.IsPlain := by
  intro x hx
  rcases (load_exchanges h).1 x hx with hx | hx <;> rw [hx] <;> trivial

/-- The calls of a job after the one that begins it: every update is to a terminal status, and all
that is written about a meeting is about the meeting of the job. -/
def FollowsBegin (id : Uuid) : Call → Prop
  | .updateStatus j status _ => j = id ∧ status.isTerminal = true
  | .addEvidence draft => draft.meetingId = id
  | .createMeeting _ => False
  | _ => True

private theorem followsBegin_of_isMergeOf {id : Uuid} {c : Call} (h : c.IsMergeOf id) :
    FollowsBegin id c := by
  cases c with
  | addEvidence draft => exact h
  | createOpportunity | findTheme | createTheme => trivial
  | createMeeting | fetchMeeting | updateStatus | idsByStatus | roster | extract => exact h.elim

theorem Closing.followsBegin {id : Uuid} {status : Status} {message : Option String}
    {outcome : Outcome} {xs : List Exchange} {o : Option Outcome}
    (h : Closing id status message outcome xs o) (hs : status.isTerminal = true) :
    ∀ x ∈ xs, FollowsBegin id x.call := by
  cases h with
  | waiting => simp
  | closed r => simp [FollowsBegin, hs]

theorem Aftermath.followsBegin {id : Uuid} {a : Except Error (List Finding)} {xs : List Exchange}
    {o : Option Outcome} (h : Aftermath id a xs o) : ∀ x ∈ xs, FollowsBegin id x.call := by
  have merged : ∀ {findings ys r}, (Merge.apply id findings).Takes ys r →
      ∀ y ∈ ys, FollowsBegin id y.call :=
    fun h y hy => followsBegin_of_isMergeOf ((Merge.records_apply h).calls y hy)
  cases h with
  | unanswered closing => exact closing.followsBegin rfl
  | merging merge => exact merged merge
  | unmerged merge closing =>
    intro x hx
    rcases List.mem_append.mp hx with hx | hx
    · exact merged merge x hx
    · exact closing.followsBegin rfl x hx
  | merged merge closing =>
    intro x hx
    rcases List.mem_append.mp hx with hx | hx
    · exact merged merge x hx
    · exact closing.followsBegin rfl x hx

theorem Course.begins {id : Uuid} {xs : List Exchange} {o : Option Outcome} (h : Course id xs o) :
    xs = [] ∨ ∃ r ys, xs = ⟨beginCall id, r⟩ :: ys ∧ (ys ≠ [] → isRefusal r = false) ∧
      ∀ y ∈ ys, FollowsBegin id y.call := by
  have loaded : ∀ {ys r}, (Job.load id).Takes ys r → ∀ y ∈ ys, FollowsBegin id y.call := by
    intro ys r hys y hy
    rcases (load_exchanges hys).1 y hy with hy | hy <;> rw [hy] <;> trivial
  cases h with
  | unbegun => exact .inl rfl
  | refused begun => exact .inr ⟨_, [], rfl, by simp, by simp⟩
  | loading begun load => exact .inr ⟨_, _, rfl, fun _ => begun, loaded load⟩
  | unloaded begun load closing =>
    refine .inr ⟨_, _, rfl, fun _ => begun, fun y hy => ?_⟩
    rcases List.mem_append.mp hy with hy | hy
    · exact loaded load y hy
    · exact closing.followsBegin rfl y hy
  | asked begun load rest =>
    refine .inr ⟨_, _, rfl, fun _ => begun, fun y hy => ?_⟩
    rcases List.mem_append.mp hy with hy | hy
    · exact loaded load y hy
    · rcases List.mem_cons.mp hy with rfl | hy
      · trivial
      · exact rest.followsBegin y hy

theorem Course.calls {id : Uuid} {xs : List Exchange} {o : Option Outcome} (h : Course id xs o) :
    ∀ x ∈ xs, x.call = beginCall id ∨ FollowsBegin id x.call := by
  rcases h.begins with rfl | ⟨r, ys, rfl, _, follow⟩
  · exact List.forall_mem_nil _
  · exact List.forall_mem_cons.mpr ⟨.inl rfl, fun y hy => .inr (follow y hy)⟩

/-- The next call of a job begins it or follows a beginning that has not been refused. -/
theorem next_of_leaves {id : Uuid} {xs : List Exchange} {c : Call}
    {next : c.Answer → Program Outcome} (h : (process id).Leaves xs (.call c next)) :
    (xs = [] ∧ c = beginCall id) ∨
      ∃ r ys, xs = ⟨beginCall id, r⟩ :: ys ∧ isRefusal r = false ∧ FollowsBegin id c := by
  -- What the call is shows in the course one answer later, and any answer will do.
  have answered := (h.snoc (.error (.internal ""))).takes
  rcases (course_of_takes answered).begins with hxs | ⟨r, ys, hxs, hgo, hfollow⟩
  · simp at hxs
  · cases xs with
    | nil => exact .inl ⟨rfl, congrArg Exchange.call (List.cons.inj hxs).1⟩
    | cons x xs =>
      obtain ⟨rfl, rfl⟩ := List.cons.inj hxs
      have last := List.mem_append_right xs (List.mem_singleton_self ⟨c, .error (.internal "")⟩)
      exact .inr ⟨r, xs, rfl, hgo (List.ne_nil_of_mem last), hfollow _ last⟩

/-- A job makes plain calls, and puts its meeting before the provider once at most: the one that it
has fetched. -/
theorem Course.asks {id : Uuid} {xs : List Exchange} {o : Option Outcome} (h : Course id xs o) :
    (∀ x ∈ xs, x.call.IsPlain) ∨ ∃ ys m roster a zs, xs = ys ++ ⟨.extract m roster, a⟩ :: zs ∧
      (∀ y ∈ ys, y.call.IsPlain) ∧ (⟨.fetchMeeting id, .ok m⟩ : Exchange) ∈ ys ∧
      Aftermath id a zs o := by
  have begun : ∀ {r} {ys : List Exchange}, (∀ y ∈ ys, y.call.IsPlain) →
      ∀ y ∈ (⟨beginCall id, r⟩ : Exchange) :: ys, y.call.IsPlain :=
    fun hys => List.forall_mem_cons.mpr ⟨trivial, hys⟩
  cases h with
  | unbegun => exact .inl (by simp)
  | refused => exact .inl (begun (by simp))
  | loading _ load => exact .inl (begun (load_plain load))
  | unloaded _ load closing =>
    exact .inl (begun (List.forall_mem_append.mpr ⟨load_plain load, closing.plain⟩))
  | @asked r ys m roster a zs _ _ load rest =>
    have fetched := (load_exchanges load).2 m roster rfl
    exact .inr ⟨⟨beginCall id, r⟩ :: ys, m, roster, a, zs, rfl, begun (load_plain load),
      List.mem_cons_of_mem _ fetched, rest⟩

theorem Aftermath.recorded {id : Uuid} {a : Except Error (List Finding)} {xs : List Exchange}
    {o : Option Outcome} (h : Aftermath id a xs o) :
    questionsAsked xs = [] ∧ findingsGiven xs = [] ∧
      match a with
      | .error _ => evidenceAdded xs = []
      | .ok findings => (evidenceAdded xs).map EvidenceDraft.words <+:
          (Quote.telling (findings.flatMap Finding.quotes)).map Quote.words := by
  have merged : ∀ {findings ys zs r}, (Merge.apply id findings).Takes ys r →
      (∀ z ∈ zs, z.call.IsPlain) → questionsAsked (ys ++ zs) = [] ∧ findingsGiven (ys ++ zs) = [] ∧
        (evidenceAdded (ys ++ zs)).map EvidenceDraft.words <+:
          (Quote.telling (findings.flatMap Finding.quotes)).map Quote.words := by
    intro findings ys zs r hys hzs
    have records := Merge.records_apply hys
    obtain ⟨hq, hf⟩ := nothing_of_isMergeOf records.calls
    obtain ⟨hq', hf', he', _⟩ := nothing_of_isPlain hzs
    refine ⟨by simp [hq, hq'], by simp [hf, hf'], ?_⟩
    rw [evidenceAdded_append, he', List.append_nil]
    exact records.begun
  cases h with
  | unanswered closing =>
    obtain ⟨hq, hf, he, _⟩ := nothing_of_isPlain closing.plain
    exact ⟨hq, hf, he⟩
  | merging merge =>
    have whole := merged merge (List.forall_mem_nil fun z : Exchange => z.call.IsPlain)
    rwa [List.append_nil] at whole
  | unmerged merge closing => exact merged merge closing.plain
  | merged merge closing => exact merged merge closing.plain

private theorem Course.length_questionsAsked_le {id : Uuid} {xs : List Exchange}
    {o : Option Outcome} (h : Course id xs o) : (questionsAsked xs).length ≤ 1 := by
  rcases h.asks with plain | ⟨ys, m, roster, a, zs, rfl, plain, _, after⟩
  · simp [(nothing_of_isPlain plain).1]
  · rw [(recorded_around plain m roster a zs).1, after.recorded.1]
    exact Nat.le_refl 1

/-- Until its question a job makes plain calls, its question is about the meeting that it has fetched,
and it asks nothing after that. -/
theorem asks_next {id : Uuid} {xs : List Exchange} {c : Call} {next : c.Answer → Program Outcome}
    (h : (process id).Leaves xs (.call c next)) :
    (questionsAsked xs ≠ [] ∧ ∀ m roster, c ≠ .extract m roster) ∨
      ((∀ x ∈ xs, x.call.IsPlain) ∧ (c.IsPlain ∨ ∃ m roster, c = .extract m roster ∧
        (⟨.fetchMeeting id, .ok m⟩ : Exchange) ∈ xs)) := by
  have answered := course_of_takes (h.snoc (.error (.internal ""))).takes
  rcases answered.asks with plain | ⟨ys, m, roster, a, zs, hxs, plain, fetched, _⟩
  · obtain ⟨plain, last⟩ := List.forall_mem_append.mp plain
    exact .inr ⟨plain, .inl (last _ (List.mem_singleton_self _))⟩
  · rcases List.eq_nil_or_concat zs with rfl | ⟨zs, z, rfl⟩
    · obtain ⟨rfl, hx⟩ := List.append_inj' hxs rfl
      have hc : c = .extract m roster := congrArg Exchange.call (List.singleton_inj.mp hx)
      exact .inr ⟨plain, .inr ⟨m, roster, hc, fetched⟩⟩
    · rw [List.concat_eq_append, ← List.cons_append, ← List.append_assoc] at hxs
      obtain ⟨rfl, _⟩ := List.append_inj' hxs rfl
      have asked := (recorded_around plain m roster a zs).1
      refine .inl ⟨by simp [asked], ?_⟩
      rintro m' roster' rfl
      have once := answered.length_questionsAsked_le
      rw [questionsAsked_append, asked, List.length_append] at once
      simp [questionsAsked, Exchange.question?] at once

/-- The evidence that a job adds is the beginning of what its provider has found. -/
theorem Course.recorded {id : Uuid} {xs : List Exchange} {o : Option Outcome} (h : Course id xs o) :
    (findingsGiven xs = [] ∧ evidenceAdded xs = []) ∨ ∃ findings, findingsGiven xs = [findings] ∧
      (evidenceAdded xs).map EvidenceDraft.words <+:
        (Quote.telling (findings.flatMap Finding.quotes)).map Quote.words := by
  rcases h.asks with plain | ⟨ys, m, roster, a, zs, rfl, plain, _, after⟩
  · obtain ⟨_, hf, he, _⟩ := nothing_of_isPlain plain
    exact .inl ⟨hf, he⟩
  · obtain ⟨_, hf, he, _⟩ := recorded_around plain m roster a zs
    obtain ⟨_, hf', he'⟩ := after.recorded
    rw [hf, he, hf']
    cases a with
    | error e => exact .inl ⟨rfl, he'⟩
    | ok findings => exact .inr ⟨findings, rfl, he'⟩

/-- A job that reports `done` has merged what the provider found, and has then tried to store it. -/
theorem Course.of_done {id : Uuid} {xs : List Exchange} {s : Merge.Summary}
    (h : Course id xs (some (.done s))) :
    ∃ r load m roster findings merge stored,
      xs = ⟨beginCall id, r⟩ :: load ++ ⟨.extract m roster, .ok findings⟩ :: merge ++
        [⟨.updateStatus id .done none, stored⟩] ∧
      (Job.load id).Takes load (some (.ok (m, roster))) ∧
      (Merge.apply id findings).Takes merge (some (.ok s)) := by
  cases h with
  | unloaded begun load closing => cases closing
  | @asked r _ m roster _ _ _ begun load rest =>
    cases rest with
    | unanswered closing => cases closing
    | unmerged merge closing => cases closing
    | @merged findings _ _ _ _ merge closing =>
      cases closing with
      | closed stored => exact ⟨r, _, m, roster, findings, _, stored, by simp, load, merge⟩

/-- A job that reports `done` has added all the quotes that its provider has found, and its summary
tells what it has written. -/
theorem Course.recorded_of_done {id : Uuid} {xs : List Exchange} {s : Merge.Summary}
    (h : Course id xs (some (.done s))) :
    ∃ findings, findingsGiven xs = [findings] ∧
      (evidenceAdded xs).map EvidenceDraft.words =
        (Quote.telling (findings.flatMap Finding.quotes)).map Quote.words ∧
      s.evidenceAdded = (evidenceAdded xs).length ∧ s.created = opportunitiesCreated xs := by
  obtain ⟨r, load, m, roster, findings, merge, stored, rfl, hload, hmerge⟩ := h.of_done
  have plain : ∀ x ∈ (⟨beginCall id, r⟩ : Exchange) :: load, x.call.IsPlain :=
    List.forall_mem_cons.mpr ⟨trivial, load_plain hload⟩
  have update : ∀ x ∈ [(⟨.updateStatus id .done none, stored⟩ : Exchange)], x.call.IsPlain := by
    simp [Call.IsPlain]
  obtain ⟨_, hf, he, ho⟩ := recorded_around plain m roster (.ok findings) merge
  obtain ⟨_, hf', he', ho'⟩ := nothing_of_isPlain update
  have records := Merge.records_apply hmerge
  rw [evidenceAdded_append, opportunitiesCreated_append, findingsGiven_append, hf, he, ho, hf', he',
    ho', List.append_nil, List.append_nil, List.append_nil,
    (nothing_of_isMergeOf records.calls).2]
  exact ⟨findings, rfl, records.whole s rfl, records.added s rfl, records.created s rfl⟩

/-- Exchanges that end with the update that closes a job: to `done` exactly when the job reports
so. -/
def EndsClosing (id : Uuid) (o : Outcome) (xs : List Exchange) : Prop :=
  ∃ ys status message r, xs = ys ++ [⟨.updateStatus id status message, r⟩] ∧
    status.isTerminal = true ∧ ((∃ s, o = .done s) ↔ status = .done)

theorem EndsClosing.after {id : Uuid} {o : Outcome} {xs : List Exchange}
    (h : EndsClosing id o xs) (before : List Exchange) : EndsClosing id o (before ++ xs) := by
  obtain ⟨ys, status, message, r, rfl, last⟩ := h
  exact ⟨before ++ ys, status, message, r, (List.append_assoc _ _ _).symm, last⟩

theorem Closing.endsClosing {id : Uuid} {status : Status} {message : Option String}
    {outcome o : Outcome} {xs : List Exchange} (h : Closing id status message outcome xs (some o))
    (terminal : status.isTerminal = true) (reported : (∃ s, outcome = .done s) ↔ status = .done) :
    EndsClosing id o xs := by
  cases h with
  | closed r => exact ⟨[], status, message, r, rfl, terminal, reported⟩

theorem Aftermath.endsClosing {id : Uuid} {a : Except Error (List Finding)} {xs : List Exchange}
    {o : Outcome} (h : Aftermath id a xs (some o)) : EndsClosing id o xs := by
  cases h with
  | unanswered closing => exact closing.endsClosing rfl (by simp)
  | unmerged merge closing => exact (closing.endsClosing rfl (by simp)).after _
  | merged merge closing => exact (closing.endsClosing rfl (by simp)).after _

/-- A job that is over has been refused at once, or has closed. -/
theorem Course.closes {id : Uuid} {xs : List Exchange} {o : Outcome} (h : Course id xs (some o)) :
    (o = .skipped ∧ ∃ r, isRefusal r = true ∧ xs = [⟨beginCall id, r⟩]) ∨ EndsClosing id o xs := by
  cases h with
  | refused begun => exact .inl ⟨rfl, _, begun, rfl⟩
  | @unloaded r load _ _ _ _ _ closing =>
    exact .inr ((closing.endsClosing rfl (by simp)).after (⟨beginCall id, r⟩ :: load))
  | @asked r load m roster a _ _ _ _ rest =>
    have last := rest.endsClosing.after (⟨beginCall id, r⟩ :: load ++ [⟨.extract m roster, a⟩])
    rw [List.append_assoc] at last
    exact .inr last

end Job

end MeetingInsights
