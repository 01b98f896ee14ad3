import MeetingInsights.Proofs.LaterStores
import MeetingInsights.Proofs.MergeParts
import MeetingInsights.Proofs.ThemeResolution

/-! # Disturbed merges

A merge that runs alone is followed side by side with the same merge that nothing disturbs. A
disturbance either ends it, or is made up for by a later call. So until the end both write the same
rows, and what a disturbed merge leaves is what the other one has written at some point of its way.
-/

namespace MeetingInsights

namespace Program

variable {α β : Type} {provider : Provider} {p q r : Program α} {b b' b'' : Backend}

/-- A program that runs alone gets to what is then left of it, after some of its calls. -/
inductive Reaches (provider : Provider) : Program α → Backend → Program α → Backend → Prop where
  | here (p : Program α) (b : Backend) : Reaches provider p b p b
  | answered {c : Call} {next : c.Answer → Program α} {b b' : Backend} {q : Program α}
      (rest : Reaches provider (next (b.answer provider c).1) (b.answer provider c).2 q b') :
      Reaches provider (.call c next) b q b'

namespace Reaches

theorem trans (h : Reaches provider p b q b') (k : Reaches provider q b' r b'') :
    Reaches provider p b r b'' := by
  induction h with
  | here => exact k
  | answered _ ih => exact .answered (ih k)

theorem bind (h : Reaches provider p b q b') (f : α → Program β) :
    Reaches provider (p >>= f) b (q >>= f) b' := by
  induction h with
  | here => exact .here _ _
  | answered _ ih => exact .answered ih

theorem run (h : Reaches provider p b q b') : p.run provider b = q.run provider b' := by
  induction h with
  | here => rfl
  | answered _ ih => exact ih

theorem ended (p : Program α) (b : Backend) :
    Reaches provider p b (.done (p.run provider b).1) (p.run provider b).2 := by
  induction p generalizing b with
  | done a => exact .here _ _
  | call c next ih => exact .answered (ih _ _)

end Reaches

end Program

/-- What a merge can see of a backend: the rows that it refers to or adds to, and what new ones
get. -/
structure View where
  supply : Supply
  now : Timestamp
  meetings : List Uuid
  opportunities : List OpportunityRecord
  themes : List Theme
  evidence : List Evidence

namespace Backend

def view (b : Backend) : View where
  supply := b.supply
  now := b.now
  meetings := b.store.meetings.rows.map Meeting.id
  opportunities := b.store.opportunities
  themes := b.store.themes
  evidence := b.store.evidence

variable {b r : Backend}

private theorem findTheme?_of_view (same : b.view = r.view) (name : String) :
    b.store.findTheme? name = r.store.findTheme? name := by
  have themes : b.store.themes = r.store.themes := congrArg View.themes same
  rw [Store.findTheme?, themes, Store.findTheme?]

private theorem acceptsTheme_of_view (same : b.view = r.view) (theme : Option Uuid) :
    b.store.acceptsTheme theme = r.store.acceptsTheme theme := by
  have themes : b.store.themes = r.store.themes := congrArg View.themes same
  cases theme with
  | none => rfl
  | some id =>
    rw [Store.acceptsTheme, Store.themeById?, themes, Store.acceptsTheme, Store.themeById?]

private theorem opportunityRecord?_of_view (same : b.view = r.view) (id : Uuid) :
    b.store.opportunityRecord? id = r.store.opportunityRecord? id := by
  have opportunities : b.store.opportunities = r.store.opportunities :=
    congrArg View.opportunities same
  rw [Store.opportunityRecord?, opportunities, Store.opportunityRecord?]

private theorem find?_of_view (same : b.view = r.view) (id : Uuid) :
    (b.store.meetings.find? id).isNone = (r.store.meetings.find? id).isNone := by
  have meetings : b.store.meetings.rows.map Meeting.id = r.store.meetings.rows.map Meeting.id :=
    congrArg View.meetings same
  have known : (b.store.meetings.find? id).isSome = (r.store.meetings.find? id).isSome := by
    rw [Bool.eq_iff_iff, MeetingTable.find?_isSome_iff, MeetingTable.find?_isSome_iff, meetings]
  rw [← Option.not_isSome, known, Option.not_isSome]

private theorem perform_createOpportunity_of_view (same : b.view = r.view) (provider : Provider)
    (draft : OpportunityDraft) :
    (b.perform provider (.createOpportunity draft)).1 =
        (r.perform provider (.createOpportunity draft)).1 ∧
      (b.perform provider (.createOpportunity draft)).2.view =
        (r.perform provider (.createOpportunity draft)).2.view := by
  simp only [perform, Store.createOpportunity, acceptsTheme_of_view same]
  cases r.store.acceptsTheme draft.themeId with
  | false => exact ⟨rfl, same⟩
  | true =>
    refine ⟨congrArg (fun v : View => Except.ok v.supply.opportunity) same, ?_⟩
    exact congrArg (fun v : View => { v with
      supply.opportunity := v.supply.opportunity.next
      opportunities := v.opportunities ++
        [OpportunityRecord.ofDraft draft v.supply.opportunity v.now] }) same

private theorem perform_addEvidence_of_view (same : b.view = r.view) (provider : Provider)
    (draft : EvidenceDraft) :
    (b.perform provider (.addEvidence draft)).1 = (r.perform provider (.addEvidence draft)).1 ∧
      (b.perform provider (.addEvidence draft)).2.view =
        (r.perform provider (.addEvidence draft)).2.view := by
  simp only [perform, Store.addEvidence, opportunityRecord?_of_view same, find?_of_view same]
  cases (r.store.opportunityRecord? draft.opportunityId).isNone with
  | true => exact ⟨rfl, same⟩
  | false =>
    cases (r.store.meetings.find? draft.meetingId).isNone with
    | true => exact ⟨rfl, same⟩
    | false =>
      refine ⟨congrArg (fun v : View => Except.ok v.supply.evidence) same, ?_⟩
      exact congrArg (fun v : View => { v with
        supply.evidence := v.supply.evidence.next
        evidence := v.evidence ++ [Evidence.ofDraft draft v.supply.evidence v.now] }) same

end Backend

namespace Merge

variable {b : Backend} {provider : Provider} {name : String}

/-- A search fails or finds what is there, or it is disturbed and finds nothing. -/
theorem answer_findTheme_cases (b : Backend) (provider : Provider) (name : String) :
    ∃ faults, (b.answer provider (.findTheme name)).2 = { b with faults } ∧
      ((∃ e, (b.answer provider (.findTheme name)).1 = .error e) ∨
        (b.answer provider (.findTheme name)).1 = .ok none ∨
        (b.answer provider (.findTheme name)).1 = .ok (b.store.findTheme? name)) := by
  obtain ⟨faults, struck⟩ := b.exists_strike_eq (.findTheme name)
  refine ⟨faults, ?_⟩
  unfold Backend.answer
  simp only [struck]
  cases (b.strike (.findTheme name)).1 with
  | none => exact ⟨rfl, .inr (.inr rfl)⟩
  | some d =>
    cases d with
    | failure e => exact ⟨rfl, .inl ⟨e, rfl⟩⟩
    | nothingFound => exact ⟨rfl, .inr (.inl rfl)⟩

/-- What a search for a theme comes to under disturbances: it fails and writes nothing, or it ends
with the theme with which it would have ended without them. -/
inductive Finds (b : Backend) (name : String) : Except Error (Option Uuid) × Backend → Prop where
  | failed (e : Error) (faults : List Fault) : Finds b name (.error e, { b with faults })
  | settled (faults : List Fault) :
      Finds b name (.ok (some (settleTheme b name).1), { (settleTheme b name).2 with faults })

theorem Finds.of_there {t : Theme} (there : b.store.findTheme? name = some t)
    (faults : List Fault) : Finds b name (.ok (some t.id), { b with faults }) := by
  have settled : Finds b name _ := .settled faults
  rwa [settleTheme, there] at settled

theorem Finds.of_withFaults {faults : List Fault} {ran : Except Error (Option Uuid) × Backend}
    (h : Finds { b with faults } name ran) : Finds b name ran := by
  cases h with
  | failed e left => exact .failed e left
  | settled left =>
    have same : settleTheme { b with faults } name =
        ((settleTheme b name).1, { (settleTheme b name).2 with faults }) := by
      unfold settleTheme
      dsimp only
      cases b.store.findTheme? name <;> rfl
    rw [same]
    exact .settled left

private theorem finds_searchAgain (b : Backend) (provider : Provider) (name : String) :
    Finds b name ((searchAgain name).run provider b) := by
  obtain ⟨faults, left, answered⟩ := answer_findTheme_cases b provider name
  rw [searchAgain, Program.run_call, left]
  rcases answered with ⟨e, failed⟩ | nothing | found
  · rw [failed]
    exact .failed e faults
  · rw [nothing]
    exact .failed (lostTheme name) faults
  · rw [found]
    cases there : b.store.findTheme? name with
    | none => exact .failed (lostTheme name) faults
    | some t => exact .of_there there faults

private theorem finds_makeTheme (b : Backend) (provider : Provider) (name : String) :
    Finds b name ((makeTheme name).run provider b) := by
  have refused : ∀ e faults, b.answer provider (.createTheme name) = (.error e, { b with faults }) →
      Finds b name ((makeTheme name).run provider b) := by
    intro e faults answered
    rw [makeTheme, Program.run_call, answered]
    cases e with
    | conflict d => exact (finds_searchAgain { b with faults } provider name).of_withFaults
    | database | notFound | meetingNotFound | opportunityNotFound | invalidTransition
    | invalidReference | extraction | serialization | config | request | internal | io =>
      exact .failed _ faults
  rcases b.answer_cases provider (.createTheme name) with
    ⟨faults, left, ⟨e, failed⟩ | ⟨_, search⟩⟩ | ⟨faults, performed⟩
  · exact refused e faults (Prod.ext failed left)
  · cases search
  · simp only [Backend.perform, Store.createTheme] at performed
    cases there : b.store.findTheme? name with
    | some t =>
      rw [there] at performed
      exact refused _ faults performed
    | none =>
      rw [there] at performed
      have settled : Finds b name _ := .settled faults
      rw [settleTheme, there] at settled
      rw [makeTheme, Program.run_call, performed]
      exact settled

private theorem finds_searchTheme (b : Backend) (provider : Provider) (name : String) :
    Finds b name ((searchTheme name).run provider b) := by
  obtain ⟨faults, left, answered⟩ := answer_findTheme_cases b provider name
  have making := (finds_makeTheme { b with faults } provider name).of_withFaults
  rw [searchTheme, Program.run_call, left]
  rcases answered with ⟨e, failed⟩ | nothing | found
  · rw [failed]
    exact .failed e faults
  · rw [nothing]
    exact making
  · rw [found]
    cases there : b.store.findTheme? name with
    | none => exact making
    | some t => exact .of_there there faults

end Merge

/-- An attempt under disturbances keeps up with itself without them: run alone on a backend of the
same view, that comes to the same view on its way, and to the same result if this one succeeds. -/
def Attempt.KeepsUp {α : Type} (t : Attempt α) (provider : Provider) : Prop :=
  ∀ b r : Backend, b.view = r.view → r.faults = [] → ∃ rest r',
    Program.Reaches provider (ExceptT.run t) r rest r' ∧ (t.run provider b).2.view = r'.view ∧
      r'.faults = [] ∧ ∀ a, (t.run provider b).1 = .ok a → rest = .done (.ok a)

namespace Attempt

variable {α β : Type} {provider : Provider}

theorem keepsUp_pure (a : α) : KeepsUp (pure a : Attempt α) provider := by
  intro b r same calm
  refine ⟨_, r, .here _ _, same, calm, ?_⟩
  rintro _ ⟨⟩
  rfl

private theorem keepsUp_throw (e : Error) : KeepsUp (throw e : Attempt α) provider := by
  intro b r same calm
  exact ⟨_, r, .here _ _, same, calm, nofun⟩

theorem KeepsUp.bind {t : Attempt α} {f : α → Attempt β} (first : t.KeepsUp provider)
    (second : ∀ a, (f a).KeepsUp provider) : KeepsUp (t >>= f) provider := by
  intro b r same calm
  obtain ⟨rest, r₁, reached, same₁, calm₁, ended⟩ := first b r same calm
  rw [ExceptT.run_bind, run_bind]
  cases ran : t.run provider b with
  | mk result b₁ =>
    rw [ran] at same₁ ended
    cases result with
    | error e => exact ⟨_, r₁, reached.bind _, same₁, calm₁, nofun⟩
    | ok a =>
      obtain rfl := ended a rfl
      obtain ⟨rest, r₂, reached₂, same₂, calm₂, ended₂⟩ := second a b₁ r₁ same₁ calm₁
      exact ⟨rest, r₂, (reached.bind _).trans reached₂, same₂, calm₂, ended₂⟩

private theorem composes_keepsUp (provider : Provider) : Composes fun t => t.KeepsUp provider :=
  ⟨keepsUp_pure, keepsUp_throw, KeepsUp.bind⟩

/-- A disturbed call fails and writes nothing, and otherwise it does what it does undisturbed. -/
theorem keepsUp_attempt {c : Call} (search : ∀ name, c ≠ .findTheme name)
    (alike : ∀ b r : Backend, b.view = r.view →
      (b.perform provider c).1 = (r.perform provider c).1 ∧
        (b.perform provider c).2.view = (r.perform provider c).2.view) :
    c.attempt.KeepsUp provider := by
  intro b r same calm
  rw [run_attempt]
  rcases b.answer_cases provider c with
    ⟨faults, left, ⟨e, failed⟩ | ⟨name, hc⟩⟩ | ⟨faults, performed⟩
  · rw [failed, left]
    exact ⟨_, r, .here _ _, same, calm, nofun⟩
  · exact (search name hc).elim
  · obtain ⟨answer, view⟩ := alike b r same
    rw [performed]
    refine ⟨_, (r.answer provider c).2, .answered (.here _ _), ?_, ?_, ?_⟩
    · rw [Backend.answer_of_faultless calm]
      exact view
    · rw [Backend.answer_of_faultless calm, Backend.faults_perform, calm]
    · intro a succeeded
      rw [Backend.answer_of_faultless calm, ← answer]
      exact congrArg Program.done succeeded

end Attempt

namespace Merge

variable {provider : Provider}

private theorem view_settleTheme {b r : Backend} (same : b.view = r.view) (name : String) :
    (settleTheme b name).1 = (settleTheme r name).1 ∧
      (settleTheme b name).2.view = (settleTheme r name).2.view := by
  simp only [settleTheme, Backend.findTheme?_of_view same]
  cases r.store.findTheme? name with
  | some t => exact ⟨rfl, same⟩
  | none =>
    refine ⟨congrArg (fun v : View => v.supply.theme) same, ?_⟩
    exact congrArg (fun v : View => { v with
      supply.theme := v.supply.theme.next
      themes := v.themes ++ [(⟨v.supply.theme, name, v.now⟩ : Theme)] }) same

private theorem keepsUp_searchTheme (name : String) :
    Attempt.KeepsUp (ExceptT.mk (searchTheme name)) provider := by
  intro b r same calm
  have finds := finds_searchTheme b provider name
  change ∃ rest r', Program.Reaches provider (searchTheme name) r rest r' ∧
    ((searchTheme name).run provider b).2.view = r'.view ∧ r'.faults = [] ∧
      ∀ a, ((searchTheme name).run provider b).1 = .ok a → rest = .done (.ok a)
  generalize (searchTheme name).run provider b = ran at finds ⊢
  cases finds with
  | failed e faults => exact ⟨_, r, .here _ _, same, calm, nofun⟩
  | settled faults =>
    obtain ⟨id, view⟩ := view_settleTheme same name
    have ended : Program.Reaches provider (searchTheme name) r _ _ := .ended _ r
    rw [run_searchTheme calm, ← id] at ended
    refine ⟨_, _, ended, view, ?_, ?_⟩
    · unfold settleTheme
      cases r.store.findTheme? name <;> exact calm
    · rintro _ ⟨⟩
      rfl

private theorem keepsUp_themeOf (theme : Option String) : (themeOf theme).KeepsUp provider := by
  cases theme with
  | none => exact Attempt.keepsUp_pure none
  | some raw =>
    have searched : themeOf (some raw) = ExceptT.mk _ := resolveTheme_eq raw
    rw [searched]
    cases Theme.normalizeName raw with
    | none => exact Attempt.keepsUp_pure none
    | some name => exact keepsUp_searchTheme name

/-- Whatever disturbs a merge, up to its end it keeps up with the merge that nothing disturbs. -/
theorem keepsUp_apply (meeting : Uuid) (findings : List Finding) :
    (apply meeting findings).KeepsUp provider := by
  have create : ∀ draft, (Call.createOpportunity draft).attempt.KeepsUp provider := fun draft =>
    Attempt.keepsUp_attempt nofun fun _ _ same =>
      Backend.perform_createOpportunity_of_view same provider draft
  have add : ∀ draft, (Call.addEvidence draft).attempt.KeepsUp provider := fun draft =>
    Attempt.keepsUp_attempt nofun fun _ _ same =>
      Backend.perform_addEvidence_of_view same provider draft
  exact apply_of_composes (Attempt.composes_keepsUp provider) keepsUp_themeOf create add meeting
    findings

end Merge

end MeetingInsights
