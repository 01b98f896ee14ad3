import MeetingInsights.Merge
import MeetingInsights.Proofs.AttemptRuns

/-! # Finding the theme of a name

A theme is searched, made when none is found, and searched again when somebody else has made it in
between. The three calls are named here, and with nobody else at work and no faults they come down
to one search.
-/

namespace MeetingInsights.Merge

/-- The search for a theme that somebody else has just made. -/
def searchAgain (name : String) : Program (Except Error (Option Uuid)) :=
  .call (.findTheme name) fun
    | .ok (some t) => .done (.ok (some t.id))
    | .ok none => .done (.error (lostTheme name))
    | .error e => .done (.error e)

def makeTheme (name : String) : Program (Except Error (Option Uuid)) :=
  .call (.createTheme name) fun
    | .ok t => .done (.ok (some t.id))
    | .error (.conflict _) => searchAgain name
    | .error e => .done (.error e)

def searchTheme (name : String) : Program (Except Error (Option Uuid)) :=
  .call (.findTheme name) fun
    | .ok (some t) => .done (.ok (some t.id))
    | .ok none => makeTheme name
    | .error e => .done (.error e)

theorem resolveTheme_eq (raw : String) :
    ExceptT.run (resolveTheme raw) =
      match Theme.normalizeName raw with
      | none => .done (.ok none)
      | some name => searchTheme name := by
  unfold resolveTheme
  cases Theme.normalizeName raw with
  | none => rfl
  | some name =>
    change Program.call (.findTheme name) _ = _
    refine congrArg (Program.call (.findTheme name)) (funext fun r => ?_)
    match r with
    | .ok (some t) => rfl
    | .error e => rfl
    | .ok none =>
      change Program.call (.createTheme name) _ = _
      refine congrArg (Program.call (.createTheme name)) (funext fun r => ?_)
      match r with
      | .ok t => rfl
      | .error e =>
        cases e with
        | conflict d =>
          change Program.call (.findTheme name) _ = _
          refine congrArg (Program.call (.findTheme name)) (funext fun r => ?_)
          match r with
          | .ok (some t) => rfl
          | .ok none => rfl
          | .error e => rfl
        | database | notFound | meetingNotFound | opportunityNotFound | invalidTransition
        | invalidReference | extraction | serialization | config | request | internal | io => rfl

/-- The theme under a name, and the backend once it has been found or made. -/
def settleTheme (b : Backend) (name : String) : Uuid × Backend :=
  match b.store.findTheme? name with
  | some t => (t.id, b)
  | none =>
    (b.supply.theme,
      { b with
        store := { b.store with themes := b.store.themes ++ [⟨b.supply.theme, name, b.now⟩] }
        supply := { b.supply with theme := b.supply.theme.next } })

theorem run_searchTheme {b : Backend} (calm : b.faults = []) (provider : Provider)
    (name : String) :
    (searchTheme name).run provider b =
      (.ok (some (settleTheme b name).1), (settleTheme b name).2) := by
  rw [searchTheme, Program.run_call, Backend.answer_of_faultless calm]
  simp only [Backend.perform]
  cases found : b.store.findTheme? name with
  | some t => simp [settleTheme, found]
  | none =>
    change (makeTheme name).run provider b = _
    rw [makeTheme, Program.run_call, Backend.answer_of_faultless calm]
    simp [Backend.perform, Store.createTheme, settleTheme, found]

theorem run_resolveTheme {b : Backend} (calm : b.faults = []) (provider : Provider)
    {raw name : String} (normal : Theme.normalizeName raw = some name) :
    (resolveTheme raw).run provider b =
      (.ok (some (settleTheme b name).1), (settleTheme b name).2) := by
  rw [Attempt.run, resolveTheme_eq, normal]
  exact run_searchTheme calm provider name

/-- The same for an opportunity that may have no theme. -/
def fileTheme (b : Backend) (name : Option String) : Option Uuid × Backend :=
  match name with
  | none => (none, b)
  | some name => ((settleTheme b name).1, (settleTheme b name).2)

theorem run_themeOf {b : Backend} (calm : b.faults = []) (provider : Provider)
    (theme : Option String) :
    (themeOf theme).run provider b =
      (.ok (fileTheme b (theme.bind Theme.normalizeName)).1,
        (fileTheme b (theme.bind Theme.normalizeName)).2) := by
  cases theme with
  | none => rfl
  | some raw =>
    change (resolveTheme raw).run provider b = _
    rw [Option.bind_some]
    cases normal : Theme.normalizeName raw with
    | none =>
      rw [Attempt.run, resolveTheme_eq, normal]
      rfl
    | some name => exact run_resolveTheme calm provider normal

end MeetingInsights.Merge
