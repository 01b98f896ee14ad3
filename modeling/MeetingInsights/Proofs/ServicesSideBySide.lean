import MeetingInsights.Proofs.Interleavings
import MeetingInsights.Proofs.JobExchanges
import MeetingInsights.Proofs.MergeParts
import MeetingInsights.Proofs.ReachableStores
import MeetingInsights.Proofs.ShortenedTexts

/-! # Services side by side

Meetings are created and their statuses moved, themes are resolved and findings applied, by callers
of all these services and by jobs, any number of them at once. Each of their calls is a proper one,
whatever the provider says and whatever fails. So what proper calls keep holds in all stores that
services leave.
-/

namespace MeetingInsights

def Program.forget {α : Type} (p : Program α) : Program Unit := p >>= fun _ => done ()

theorem Program.exists_takes_of_forget {α : Type} {p : Program α} {xs : List Exchange}
    {o : Option Unit} (h : p.forget.Takes xs o) : ∃ o', p.Takes xs o' := by
  rcases takes_bind_iff.mp h with ⟨hxs, _⟩ | ⟨ys, zs, a, rfl, hys, hzs⟩
  · exact ⟨none, hxs⟩
  · obtain ⟨rfl, _⟩ := takes_done_iff.mp hzs
    rw [List.append_nil]
    exact ⟨some a, hys⟩

theorem Attempt.Calls.forget {α : Type} {t : Attempt α} {kind : Call → Prop} (calls : t.Calls kind)
    {xs : List Exchange} {o : Option Unit} (h : (ExceptT.run t).forget.Takes xs o) :
    ∀ x ∈ xs, kind x.call :=
  have ⟨o', h⟩ := Program.exists_takes_of_forget h
  calls xs o' h

/-- A call as services make it: a meeting gets a message when it fails and only then, one that has
been cut, and a theme is made only under a normalized name. -/
def Call.IsProper : Call → Prop
  | .updateStatus _ status message =>
    (message.isSome ↔ status = .failed) ∧
      ∀ text ∈ message, text.length ≤ Text.failureMessageLimit
  | .createTheme name => ∃ raw, Theme.normalizeName raw = some name
  | _ => True

theorem Call.isProper_of_progress (id : Uuid) {status : Status} (h : status ≠ .failed) :
    (Call.updateStatus id status none).IsProper := ⟨by simp [h], by simp⟩

theorem Call.isProper_of_failure (id : Uuid) (message : String) :
    (Call.updateStatus id .failed (some (Text.truncateFailureMessage message))).IsProper := by
  refine ⟨by simp, ?_⟩
  rintro text ⟨⟩
  exact Text.length_truncateFailureMessage_le message

namespace Merge

theorem isProper_themeOf (theme : Option String) : (themeOf theme).Calls Call.IsProper :=
  calls_themeOf_of fun _ h =>
    have ⟨raw, _, normal⟩ := Option.bind_eq_some_iff.mp h
    ⟨trivial, raw, normal⟩

theorem isProper_apply (meeting : Uuid) (findings : List Finding) :
    (apply meeting findings).Calls Call.IsProper := by
  have create : ∀ draft, (Call.createOpportunity draft).attempt.Calls Call.IsProper :=
    fun _ => Attempt.calls_attempt trivial
  have add : ∀ draft, (Call.addEvidence draft).attempt.Calls Call.IsProper :=
    fun _ => Attempt.calls_attempt trivial
  exact apply_of_composes (Attempt.composes_calls Call.IsProper) isProper_themeOf create add meeting
    findings

end Merge

namespace Job

variable {id : Uuid} {xs : List Exchange}

theorem Closing.isProper {status : Status} {message : Option String} {outcome : Outcome}
    {o : Option Outcome} (h : Closing id status message outcome xs o)
    (update : (Call.updateStatus id status message).IsProper) : ∀ x ∈ xs, x.call.IsProper := by
  cases h with
  | waiting => exact List.forall_mem_nil _
  | closed r => exact List.forall_mem_singleton.mpr update

theorem Aftermath.isProper {a : Except Error (List Finding)} {o : Option Outcome}
    (h : Aftermath id a xs o) : ∀ x ∈ xs, x.call.IsProper := by
  cases h with
  | unanswered closing => exact closing.isProper (Call.isProper_of_failure id _)
  | merging merge => exact Merge.isProper_apply id _ _ _ merge
  | unmerged merge closing =>
    exact List.forall_mem_append.mpr
      ⟨Merge.isProper_apply id _ _ _ merge, closing.isProper (Call.isProper_of_failure id _)⟩
  | merged merge closing =>
    exact List.forall_mem_append.mpr
      ⟨Merge.isProper_apply id _ _ _ merge, closing.isProper (Call.isProper_of_progress id nofun)⟩

theorem Course.isProper {o : Option Outcome} (h : Course id xs o) : ∀ x ∈ xs, x.call.IsProper := by
  have begun : (beginCall id).IsProper := Call.isProper_of_progress id nofun
  have loaded : ∀ {ys r}, (load id).Takes ys r → ∀ y ∈ ys, y.call.IsProper := by
    intro ys r hys y hy
    rcases (load_exchanges hys).1 y hy with hy | hy <;> rw [hy] <;> trivial
  cases h with
  | unbegun => exact List.forall_mem_nil _
  | refused => exact List.forall_mem_singleton.mpr begun
  | loading _ load => exact List.forall_mem_cons.mpr ⟨begun, loaded load⟩
  | unloaded _ load closing =>
    exact List.forall_mem_cons.mpr ⟨begun, List.forall_mem_append.mpr
      ⟨loaded load, closing.isProper (Call.isProper_of_failure id _)⟩⟩
  | asked _ load rest =>
    exact List.forall_mem_cons.mpr ⟨begun, List.forall_mem_append.mpr
      ⟨loaded load, List.forall_mem_cons.mpr ⟨trivial, rest.isProper⟩⟩⟩

end Job

/-- What the services can be asked to do. -/
inductive Errand where
  | createMeeting (draft : MeetingDraft)
  | begin (id : Uuid)
  | complete (id : Uuid)
  | fail (id : Uuid) (message : String)
  | resolveTheme (raw : String)
  | apply (meeting : Uuid) (findings : List Finding)
  | process (id : Uuid)

namespace Errand

/-- The calls of an errand. What it comes to is told to whoever asked for it and not kept here. -/
def program : Errand → Program Unit
  | createMeeting draft => (ExceptT.run (Call.createMeeting draft).attempt).forget
  | begin id => (ExceptT.run (Progress.begin id)).forget
  | complete id => (ExceptT.run (Progress.complete id)).forget
  | fail id message => (ExceptT.run (Progress.fail id message)).forget
  | resolveTheme raw => (ExceptT.run (Merge.resolveTheme raw)).forget
  | apply meeting findings => (ExceptT.run (Merge.apply meeting findings)).forget
  | process id => (Job.process id).forget

theorem isProper {e : Errand} {xs : List Exchange} {o : Option Unit} (h : e.program.Takes xs o) :
    ∀ x ∈ xs, x.call.IsProper := by
  cases e with
  | createMeeting draft =>
    have create : (Call.createMeeting draft).attempt.Calls Call.IsProper :=
      Attempt.calls_attempt trivial
    exact create.forget h
  | begin id =>
    have update : (Progress.begin id).Calls Call.IsProper :=
      Attempt.calls_attempt (Call.isProper_of_progress id nofun)
    exact update.forget h
  | complete id =>
    have update : (Progress.complete id).Calls Call.IsProper :=
      Attempt.calls_attempt (Call.isProper_of_progress id nofun)
    exact update.forget h
  | fail id message =>
    have update : (Progress.fail id message).Calls Call.IsProper :=
      Attempt.calls_attempt (Call.isProper_of_failure id message)
    exact update.forget h
  | resolveTheme raw => exact (Merge.isProper_themeOf (some raw)).forget h
  | apply meeting findings => exact (Merge.isProper_apply meeting findings).forget h
  | process id =>
    obtain ⟨o, h⟩ := Program.exists_takes_of_forget h
    exact (Job.course_of_takes h).isProper

/-- A turn of an errand, with what the provider would say and the conditions of the answer. -/
structure Turn where
  errand : Nat
  provider : Provider
  conditions : Conditions

/-- Errands at work side by side, on a store that begins without rows. One that is asked for later
has its first turn later. -/
def serve (errands : List Errand) (turns : List Turn) : Interleaving Unit :=
  turns.foldl (fun w t => w.advance t.provider t.errand t.conditions)
    (.launched .vacant (errands.map program))

def Follow (errands : List Errand) (w : Interleaving Unit) : Prop :=
  ∀ (i : Nat) (t : Thread Unit), w.threads[i]? = some t →
    ∃ e : Errand, errands[i]? = some e ∧ e.program.Leaves t.past t.rest

variable {errands : List Errand}

private theorem follow_launched (b : Backend) :
    Follow errands (.launched b (errands.map program)) := by
  intro i t ht
  simp only [Interleaving.launched, List.map_map, List.getElem?_map, Option.map_eq_some_iff] at ht
  obtain ⟨e, he, rfl⟩ := ht
  exact ⟨e, he, .all _⟩

theorem Follow.advance {w : Interleaving Unit} (h : Follow errands w) (provider : Provider)
    (i : Nat) (k : Conditions) : Follow errands (w.advance provider i k) := by
  rcases w.advance_cases provider i k with same | ⟨past, c, next, turn, moved⟩
  · rwa [same]
  · rw [moved]
    intro j t ht
    by_cases hij : i = j
    · subst hij
      obtain ⟨hi, _⟩ := List.getElem?_eq_some_iff.mp turn
      obtain rfl := Option.some.inj ((List.getElem?_set_self hi).symm.trans ht)
      obtain ⟨e, he, leaves⟩ := h i _ turn
      exact ⟨e, he, leaves.snoc _⟩
    · rw [List.getElem?_set_ne hij] at ht
      exact h j t ht

/-- What every answer to an errand keeps holds after all turns. -/
theorem serve_keeps {J : Interleaving Unit → Prop}
    (initial : J (.launched .vacant (errands.map program)))
    (keep : ∀ (w : Interleaving Unit) (provider : Provider) (i : Nat) (k : Conditions) (e : Errand)
      past c next, errands[i]? = some e → w.threads[i]? = some ⟨past, .call c next⟩ →
      e.program.Leaves past (.call c next) → J w → J (w.advance provider i k))
    (turns : List Turn) : Follow errands (serve errands turns) ∧ J (serve errands turns) := by
  unfold serve
  refine List.foldlRecOn turns _ (motive := fun w => Follow errands w ∧ J w)
    ⟨follow_launched _, initial⟩ fun w h t _ => ?_
  obtain ⟨follow, holds⟩ := h
  refine ⟨follow.advance _ _ _, ?_⟩
  rcases w.advance_cases t.provider t.errand t.conditions with same | ⟨past, c, next, turn, _⟩
  · rwa [same]
  · obtain ⟨e, he, leaves⟩ := follow _ _ turn
    exact keep w t.provider t.errand t.conditions e past c next he turn leaves holds

private theorem isProper_next {e : Errand} {past : List Exchange} {c : Call}
    {next : c.Answer → Program Unit} (h : e.program.Leaves past (.call c next)) : c.IsProper := by
  -- What the call is shows in the exchanges one answer later, and any answer will do.
  have answered := (h.snoc (.error (.internal ""))).takes
  exact isProper answered _ (List.mem_append_right past (List.mem_singleton_self _))

/-- What proper calls keep of a store without rows holds of every store that errands leave. -/
theorem serve_keeps_store {J : Store → Prop} (initial : J .empty)
    (keep : ∀ (b : Backend) (provider : Provider) (c : Call), c.IsProper → J b.store →
      J (b.answer provider c).2.store)
    (turns : List Turn) : J (serve errands turns).backend.store := by
  refine (serve_keeps (J := fun w => J w.backend.store) initial ?_ turns).2
  intro w provider i k e past c next _ turn leaves holds
  rw [Interleaving.advance_of_call turn]
  exact keep (w.backend.under k) provider c (isProper_next leaves) holds

end Errand

end MeetingInsights
