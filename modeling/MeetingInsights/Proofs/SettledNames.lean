import MeetingInsights.Proofs.DisturbedMerges
import MeetingInsights.Proofs.MergeWrites
import MeetingInsights.Proofs.NormalNames

/-! # Settled names

Whoever gets the theme of a raw name, alone or beside others and whatever is disturbed, has found it
under the normalized name or has made it there, so it is stored there from then on. The normalized
name is its own normalized form. Resolving it comes down to one search that finds that theme.
-/

namespace MeetingInsights

namespace Merge

variable {b : Backend} {provider : Provider} {raw name : String} {id : Uuid} {s t : Store}
  {xs : List Exchange}

private theorem files_of_answer_findTheme {theme : Theme}
    (answered : (b.answer provider (.findTheme name)).1 = .ok (some theme)) :
    Files (b.answer provider (.findTheme name)).2.store (some name) (some theme.id) := by
  obtain ⟨faults, left, ⟨e, failed⟩ | nothing | found⟩ := answer_findTheme_cases b provider name
  · rw [failed] at answered
    cases answered
  · rw [nothing] at answered
    cases answered
  · rw [found, Except.ok.injEq] at answered
    rw [left]
    exact .some ⟨theme, answered, rfl⟩

private theorem files_of_answer_createTheme {theme : Theme}
    (answered : (b.answer provider (.createTheme name)).1 = .ok theme) :
    Files (b.answer provider (.createTheme name)).2.store (some name) (some theme.id) := by
  rcases b.answer_cases provider (.createTheme name) with
    ⟨_, _, ⟨e, failed⟩ | ⟨_, search⟩⟩ | ⟨faults, performed⟩
  · rw [failed] at answered
    cases answered
  · cases search
  · rw [performed] at answered ⊢
    simp only [Backend.perform, Store.createTheme] at answered ⊢
    cases there : b.store.findTheme? name with
    | some taken => simp [there] at answered
    | none =>
      simp only [there, Option.isSome_none, Bool.false_eq_true, if_false, Except.ok.injEq]
        at answered ⊢
      rw [← answered]
      exact files_added _ there

theorem files_of_found {theme : Theme}
    (before : t.AnsweredBefore (⟨.findTheme name, .ok (some theme)⟩ :: xs)) :
    Files t (some name) (some theme.id) := by
  obtain ⟨b, provider, answered, leads⟩ := before _ List.mem_cons_self
  exact (files_of_answer_findTheme answered.symm).mono leads.themes

private theorem files_of_made {theme : Theme}
    (before : t.AnsweredBefore (⟨.createTheme name, .ok theme⟩ :: xs)) :
    Files t (some name) (some theme.id) := by
  obtain ⟨b, provider, answered, leads⟩ := before _ List.mem_cons_self
  exact (files_of_answer_createTheme answered.symm).mono leads.themes

private theorem files_of_takes_searchAgain (h : (searchAgain name).Takes xs (some (.ok (some id))))
    (before : t.AnsweredBefore xs) : Files t (some name) (some id) := by
  rcases Program.takes_call_iff.mp h with ⟨_, ended⟩ | ⟨r, ys, rfl, continued⟩
  · cases ended
  match r with
  | .ok (some theme) =>
    obtain ⟨_, ended⟩ := Program.takes_done_iff.mp continued
    cases ended
    exact files_of_found before
  | .ok none => cases (Program.takes_done_iff.mp continued).2
  | .error e => cases (Program.takes_done_iff.mp continued).2

private theorem files_of_takes_makeTheme (h : (makeTheme name).Takes xs (some (.ok (some id))))
    (before : t.AnsweredBefore xs) : Files t (some name) (some id) := by
  rcases Program.takes_call_iff.mp h with ⟨_, ended⟩ | ⟨r, ys, rfl, continued⟩
  · cases ended
  match r with
  | .ok theme =>
    obtain ⟨_, ended⟩ := Program.takes_done_iff.mp continued
    cases ended
    exact files_of_made before
  | .error e =>
    cases e with
    | conflict d => exact files_of_takes_searchAgain continued (List.forall_mem_cons.mp before).2
    | database | notFound | meetingNotFound | opportunityNotFound | invalidTransition
    | invalidReference | extraction | serialization | config | request | internal | io =>
      cases (Program.takes_done_iff.mp continued).2

private theorem files_of_takes_searchTheme (h : (searchTheme name).Takes xs (some (.ok (some id))))
    (before : t.AnsweredBefore xs) : Files t (some name) (some id) := by
  rcases Program.takes_call_iff.mp h with ⟨_, ended⟩ | ⟨r, ys, rfl, continued⟩
  · cases ended
  match r with
  | .ok (some theme) =>
    obtain ⟨_, ended⟩ := Program.takes_done_iff.mp continued
    cases ended
    exact files_of_found before
  | .ok none => exact files_of_takes_makeTheme continued (List.forall_mem_cons.mp before).2
  | .error e => cases (Program.takes_done_iff.mp continued).2

theorem files_of_takes_resolveTheme (normal : Theme.normalizeName raw = some name)
    (h : (ExceptT.run (resolveTheme raw)).Takes xs (some (.ok (some id))))
    (before : t.AnsweredBefore xs) : Files t (some name) (some id) := by
  rw [resolveTheme_eq, normal] at h
  exact files_of_takes_searchTheme h before

theorem files_of_run {b' : Backend} (normal : Theme.normalizeName raw = some name)
    (resolved : (resolveTheme raw).run provider b = (.ok (some id), b')) :
    Files b'.store (some name) (some id) := by
  obtain ⟨xs, takes, before⟩ := (ExceptT.run (resolveTheme raw)).takes_run provider b
  rw [Attempt.run] at resolved
  rw [resolved] at takes before
  exact files_of_takes_resolveTheme normal takes before

/-- A name is settled on a theme: in this store and in all later ones, whoever resolves it without
a failing call gets this theme and leaves everything as it is. -/
def SettledOn (s : Store) (name : String) (id : Uuid) : Prop :=
  ∀ (b : Backend) (provider : Provider), s.Leads b.store → b.faults = [] →
    (resolveTheme name).run provider b = (.ok (some id), b)

theorem settledOn_of_files (normal : Theme.IsNormal name) (files : Files s (some name) (some id)) :
    SettledOn s name id := by
  intro b provider later calm
  obtain ⟨theme, found, rfl⟩ : ∃ t, b.store.findTheme? name = some t ∧ t.id = id := by
    cases files.mono later.themes with
    | some found => exact found
  rw [run_resolveTheme calm provider normal]
  simp only [settleTheme, found]

private theorem settledOn_of_run {b' : Backend} (normal : Theme.normalizeName raw = some name)
    (resolved : (resolveTheme raw).run provider b = (.ok (some id), b')) :
    SettledOn b'.store name id :=
  settledOn_of_files (Theme.isNormal_of_normalizeName normal) (files_of_run normal resolved)

private theorem settledOn_of_interleaving {w : Interleaving (Except Error (Option Uuid))} {i : Nat}
    {turns : List (Nat × Conditions)} (normal : Theme.normalizeName raw = some name)
    (stands : w.threads[i]? = some ⟨[], ExceptT.run (resolveTheme raw)⟩)
    (resolved : (w.run provider turns).result? i = some (.ok (some id))) :
    SettledOn (w.run provider turns).backend.store name id := by
  obtain ⟨xs, rest, stands', leaves, before⟩ :=
    Interleaving.answeredBefore_run provider stands turns
  obtain ⟨_, there, ended⟩ := Interleaving.result?_eq_some_iff.mp resolved
  obtain rfl := Option.some.inj (stands'.symm.trans there)
  obtain rfl : rest = .done (.ok (some id)) := ended
  exact settledOn_of_files (Theme.isNormal_of_normalizeName normal)
    (files_of_takes_resolveTheme normal leaves.takes before)

/-- Every raw name but the empty one has a normalized form, which has no space and is its own
normalized form. Whoever has got a theme for the raw name, alone or beside others and whatever has
been disturbed, has settled the normalized form on this theme. -/
theorem normal_form_is_settled (raw : String) :
    (Theme.normalizeName raw = none ↔ raw = "") ∧
      ∀ name, Theme.normalizeName raw = some name →
        (name ≠ "" ∧ ' ' ∉ name.toList ∧ Theme.normalizeName name = some name) ∧
        (∀ (b : Backend) (provider : Provider) (id : Uuid) (b' : Backend),
          (resolveTheme raw).run provider b = (.ok (some id), b') → SettledOn b'.store name id) ∧
        ∀ (w : Interleaving (Except Error (Option Uuid))) (i : Nat) (provider : Provider)
          (turns : List (Nat × Conditions)) (id : Uuid),
          w.threads[i]? = some ⟨[], ExceptT.run (resolveTheme raw)⟩ →
          (w.run provider turns).result? i = some (.ok (some id)) →
          SettledOn (w.run provider turns).backend.store name id :=
  ⟨Theme.normalizeName_eq_none_iff, fun _ normal =>
    ⟨⟨Theme.ne_empty_of_normalizeName normal, Theme.space_notMem_of_normalizeName normal,
      Theme.isNormal_of_normalizeName normal⟩,
    fun _ _ _ _ resolved => settledOn_of_run normal resolved,
    fun _ _ _ _ _ stands resolved => settledOn_of_interleaving normal stands resolved⟩⟩

def wordEndingInSigma : String := "The ΟΔΟΣ"

theorem wordEndingInSigma_is_settled :
    Theme.normalizeName wordEndingInSigma = some "the-οδος" ∧
      ∃ b', (resolveTheme wordEndingInSigma).run (fun _ _ => .ok []) .vacant =
          (.ok (some default), b') ∧ b'.store.themes.length = 1 ∧
        SettledOn b'.store "the-οδος" default := by
  have normal : Theme.normalizeName wordEndingInSigma = some "the-οδος" := by decide +kernel
  have resolved : ((resolveTheme wordEndingInSigma).run (fun _ _ => .ok []) .vacant).1 =
      .ok (some default) := by decide +kernel
  refine ⟨normal, _, Prod.ext resolved rfl, by decide +kernel, ?_⟩
  exact ((normal_form_is_settled wordEndingInSigma).2 _ normal).2.1 .vacant (fun _ _ => .ok [])
    default _ (Prod.ext resolved rfl)

end Merge

end MeetingInsights
