import MeetingInsights.Proofs.Interleavings
import MeetingInsights.Proofs.ReachableStores
import MeetingInsights.Proofs.ThemeResolution

/-! # Themes resolved side by side

Any number of callers resolve raw names over one store, their calls answered one at a time in any
order, and any first search may find nothing although the theme is there. How far a caller has got
says what it knows of the store: it searches again only for a theme that is there, and what it
returns is the theme of its name.
-/

namespace MeetingInsights.Merge

/-- One call is answered: whose it is, whether it finds nothing in case it is a first search, and
what new rows get. -/
structure Turn where
  caller : Nat
  overlooks : Bool
  supply : Supply
  now : Timestamp

/-- The fault of a search that finds nothing. -/
def overlooking : Fault := ⟨.findTheme, 0, 1, .nothingFound⟩

abbrev Callers : Type := Interleaving (Except Error (Option Uuid))

namespace Callers

def calling (b : Backend) (raws : List String) : Callers :=
  .launched b (raws.map fun raw => ExceptT.run (resolveTheme raw))

def isFirst (w : Callers) (i : Nat) : Bool := (w.threads[i]?).any fun t => t.past.isEmpty

def conditions (w : Callers) (t : Turn) : Conditions where
  faults := if t.overlooks && w.isFirst t.caller then [overlooking] else []
  supply := t.supply
  now := t.now

def turn (provider : Provider) (w : Callers) (t : Turn) : Callers :=
  w.advance provider t.caller (w.conditions t)

def run (provider : Provider) (w : Callers) (turns : List Turn) : Callers :=
  turns.foldl (turn provider) w

def themes (w : Callers) : List Theme := w.backend.store.themes

end Callers

/-- The stages of a caller over a store. -/
inductive Stage (s : Store) (raw : String) : Thread (Except Error (Option Uuid)) → Prop where
  | nameless (absent : Theme.normalizeName raw = none) : Stage s raw ⟨[], .done (.ok none)⟩
  | searching {name} (normal : Theme.normalizeName raw = some name) :
      Stage s raw ⟨[], searchTheme name⟩
  | making {name past} (normal : Theme.normalizeName raw = some name) (answered : past.length = 1) :
      Stage s raw ⟨past, makeTheme name⟩
  | searchingAgain {name past} (normal : Theme.normalizeName raw = some name)
      (answered : past.length = 2) (taken : name ∈ s.themes.map Theme.name) :
      Stage s raw ⟨past, searchAgain name⟩
  | resolved {past} {t : Theme} (normal : Theme.normalizeName raw = some t.name)
      (mem : t ∈ s.themes) : Stage s raw ⟨past, .done (.ok (some t.id))⟩

/-- A store has become another by at most one new theme, under a name that was not taken. -/
inductive Gains (raw : String) (s s' : Store) : Prop where
  | nothing (same : s'.themes = s.themes)
  | theme (t : Theme) (normal : Theme.normalizeName raw = some t.name)
      (new : t.name ∉ s.themes.map Theme.name) (added : s'.themes = s.themes ++ [t])

variable {s s' : Store} {raw : String}

private theorem Gains.prefix (h : Gains raw s s') : s.themes <+: s'.themes := by
  cases h with
  | nothing same => exact same ▸ List.prefix_rfl
  | theme t _ _ added => exact ⟨[t], added.symm⟩

theorem Gains.distinct (h : Gains raw s s') (distinct : (s.themes.map Theme.name).Nodup) :
    (s'.themes.map Theme.name).Nodup := by
  cases h with
  | nothing same => rwa [same]
  | theme t _ new added =>
    simpa [added] using List.Nodup.concat new distinct

theorem Gains.asked (h : Gains raw s s') {t : Theme} (ht : t ∈ s'.themes) :
    t ∈ s.themes ∨ Theme.normalizeName raw = some t.name := by
  cases h with
  | nothing same => exact .inl (same ▸ ht)
  | theme u normal _ added =>
    rw [added] at ht
    rcases List.mem_append.mp ht with ht | ht
    · exact .inl ht
    · exact .inr (List.mem_singleton.mp ht ▸ normal)

theorem Stage.mono {t : Thread (Except Error (Option Uuid))} (h : Stage s raw t)
    (kept : s.themes <+: s'.themes) : Stage s' raw t := by
  cases h with
  | nameless absent => exact .nameless absent
  | searching normal => exact .searching normal
  | making normal answered => exact .making normal answered
  | searchingAgain normal answered taken =>
    exact .searchingAgain normal answered ((kept.map Theme.name).subset taken)
  | resolved normal mem => exact .resolved normal (kept.subset mem)

private theorem stage_resolveTheme (s : Store) (raw : String) :
    Stage s raw ⟨[], ExceptT.run (resolveTheme raw)⟩ := by
  rw [resolveTheme_eq]
  cases h : Theme.normalizeName raw with
  | none => exact .nameless h
  | some name => exact .searching h

theorem Stage.answered {t : Thread (Except Error (Option Uuid))} (h : Stage s raw t)
    (isOpen : t.rest.result? = none) : t.past.length < 3 := by
  cases h with
  | nameless | resolved => cases isOpen
  | searching => exact Nat.zero_lt_succ 2
  | making _ answered | searchingAgain _ answered => simp only [answered]; decide

private theorem answer_findTheme {b : Backend} (h : b.faults = [] ∨ b.faults = [overlooking])
    (provider : Provider) (name : String) :
    (b.answer provider (.findTheme name)).2.store = b.store ∧
      ((b.answer provider (.findTheme name)).1 = .ok (b.store.findTheme? name) ∨
        b.faults ≠ [] ∧ (b.answer provider (.findTheme name)).1 = .ok none) := by
  rcases h with calm | overlooks
  · rw [Backend.answer_of_faultless calm]
    exact ⟨rfl, .inl rfl⟩
  · have struck : b.strike (.findTheme name) =
        (some .nothingFound, { b with faults := [{ overlooking with times := 0 }] }) := by
      simp [Backend.strike, Call.operation?, overlooks, overlooking, Fault.strike]
    refine ⟨?_, .inr ⟨by simp [overlooks], ?_⟩⟩ <;> rw [Backend.answer, struck] <;> rfl

theorem Stage.advance {b : Backend} {past : List Exchange} {c : Call}
    {next : c.Answer → Program (Except Error (Option Uuid))}
    (h : Stage b.store raw ⟨past, .call c next⟩)
    (faults : b.faults = [] ∨ past = [] ∧ b.faults = [overlooking]) (provider : Provider) :
    Stage (b.answer provider c).2.store raw
        ⟨past ++ [⟨c, (b.answer provider c).1⟩], next (b.answer provider c).1⟩ ∧
      Gains raw b.store (b.answer provider c).2.store := by
  cases h with
  | @searching name normal =>
    obtain ⟨same, found⟩ := answer_findTheme (faults.imp_right And.right) provider name
    refine ⟨?_, .nothing (by rw [same])⟩
    rw [same]
    rcases found with found | ⟨_, found⟩ <;> rw [found]
    · cases there : b.store.findTheme? name with
      | none => exact .making normal rfl
      | some t =>
        obtain ⟨mem, rfl⟩ := Store.findTheme?_eq_some there
        exact .resolved normal mem
    · exact .making normal rfl
  | @making name _ normal answered =>
    have calm : b.faults = [] := faults.resolve_right (by rintro ⟨rfl, _⟩; cases answered)
    rw [Backend.answer_of_faultless calm]
    simp only [Backend.perform, Store.createTheme]
    cases there : b.store.findTheme? name with
    | none =>
      refine ⟨.resolved (t := ⟨b.supply.theme, name, b.now⟩) normal (by simp), ?_⟩
      exact .theme ⟨b.supply.theme, name, b.now⟩ normal (Store.findTheme?_eq_none_iff.mp there) rfl
    | some t =>
      obtain ⟨mem, rfl⟩ := Store.findTheme?_eq_some there
      exact ⟨.searchingAgain normal (by simp [answered]) (List.mem_map_of_mem mem), .nothing rfl⟩
  | @searchingAgain name _ normal answered taken =>
    have calm : b.faults = [] := faults.resolve_right (by rintro ⟨rfl, _⟩; cases answered)
    rw [Backend.answer_of_faultless calm]
    simp only [Backend.perform]
    refine ⟨?_, .nothing rfl⟩
    cases there : b.store.findTheme? name with
    | none => exact (Store.findTheme?_eq_none_iff.mp there taken).elim
    | some t =>
      obtain ⟨mem, rfl⟩ := Store.findTheme?_eq_some there
      exact .resolved normal mem

namespace Callers

variable {b₀ : Backend} {raws : List String} {w : Callers}

/-- Every caller is at a stage over the store as it is. Themes are added under names that are not
taken, and only under names that callers ask for. -/
structure Sound (b₀ : Backend) (raws : List String) (w : Callers) : Prop where
  length : w.threads.length = raws.length
  stages : ∀ (i : Nat) (raw : String) (t : Thread (Except Error (Option Uuid))),
    raws[i]? = some raw → w.threads[i]? = some t → Stage w.backend.store raw t
  kept : b₀.store.themes <+: w.themes
  distinct : (w.themes.map Theme.name).Nodup
  asked : ∀ t ∈ w.themes, t ∈ b₀.store.themes ∨
    ∃ raw ∈ raws, Theme.normalizeName raw = some t.name

private theorem sound_calling (h : (b₀.store.themes.map Theme.name).Nodup) (raws : List String) :
    (calling b₀ raws).Sound b₀ raws where
  length := by simp [calling, Interleaving.launched]
  stages i raw t hraw ht := by
    obtain rfl : ⟨[], ExceptT.run (resolveTheme raw)⟩ = t := by
      simpa [calling, Interleaving.launched, hraw] using ht
    exact stage_resolveTheme _ raw
  kept := List.prefix_rfl
  distinct := h
  asked t ht := .inl ht

theorem Sound.turn (h : w.Sound b₀ raws) (provider : Provider) (t : Turn) :
    (w.turn provider t).Sound b₀ raws := by
  unfold Callers.turn
  cases ht : w.threads[t.caller]? with
  | none => rwa [Interleaving.advance_of_none ht]
  | some thread =>
    obtain ⟨past, rest⟩ := thread
    cases rest with
    | done a => rwa [Interleaving.advance_of_result ht rfl]
    | call c next =>
      obtain ⟨hi, _⟩ := List.getElem?_eq_some_iff.mp ht
      obtain ⟨raw, hraw⟩ : ∃ raw, raws[t.caller]? = some raw :=
        ⟨_, List.getElem?_eq_getElem (h.length ▸ hi)⟩
      rw [Interleaving.advance_of_call ht]
      have faults : (w.backend.under (w.conditions t)).faults = [] ∨
          past = [] ∧ (w.backend.under (w.conditions t)).faults = [overlooking] := by
        simp only [Backend.under, conditions, isFirst, ht, Option.any_some]
        cases past <;> cases t.overlooks <;> simp
      have stage : Stage (w.backend.under (w.conditions t)).store raw ⟨past, .call c next⟩ :=
        h.stages _ _ _ hraw ht
      obtain ⟨moved, gains⟩ := stage.advance faults provider
      generalize (w.backend.under (w.conditions t)).answer provider c = answered at moved gains ⊢
      obtain ⟨r, b⟩ := answered
      have grows : w.themes <+: b.store.themes := gains.prefix
      refine ⟨by simpa using h.length, fun j raw' th hraw' hth => ?_, h.kept.trans grows,
        gains.distinct h.distinct, fun th hth => ?_⟩
      · by_cases hj : t.caller = j
        · subst hj
          obtain rfl : raw = raw' := Option.some.inj (hraw.symm.trans hraw')
          rw [List.getElem?_set_self hi] at hth
          exact Option.some.inj hth ▸ moved
        · rw [List.getElem?_set_ne hj] at hth
          exact (h.stages j raw' th hraw' hth).mono grows
      · rcases gains.asked hth with old | normal
        · exact h.asked th old
        · exact .inr ⟨raw, List.mem_of_getElem? hraw, normal⟩

theorem Sound.run (h : w.Sound b₀ raws) (provider : Provider) (turns : List Turn) :
    (w.run provider turns).Sound b₀ raws := by
  induction turns generalizing w with
  | nil => exact h
  | cons t turns ih => exact ih (h.turn provider t)

private theorem exists_turns (w : Callers) (provider : Provider) (turns : List Turn) :
    ∃ us, w.run provider turns = Interleaving.run provider w us ∧
      us.map Prod.fst = turns.map Turn.caller := by
  induction turns generalizing w with
  | nil => exact ⟨[], rfl, rfl⟩
  | cons t turns ih =>
    obtain ⟨us, run, callers⟩ := ih (w.turn provider t)
    exact ⟨(t.caller, w.conditions t) :: us, run, congrArg (t.caller :: ·) callers⟩

/-- With every turn of a caller one more of its calls is answered, until it is over. -/
theorem past_run {i : Nat} {t : Thread (Except Error (Option Uuid))} (ht : w.threads[i]? = some t)
    (provider : Provider) (turns : List Turn) :
    (∃ r, (w.run provider turns).result? i = some r) ∨
      ∃ t', (w.run provider turns).threads[i]? = some t' ∧
        t'.past.length = t.past.length + turns.countP fun u => u.caller = i := by
  obtain ⟨us, run, callers⟩ := w.exists_turns provider turns
  have counts : (us.countP fun u => u.1 = i) = turns.countP fun u => u.caller = i := by
    have same := congrArg (List.countP fun caller => decide (caller = i)) callers
    rwa [List.countP_map, List.countP_map] at same
  rw [run, ← counts]
  exact Interleaving.past_run ht us

/-- A caller that is over has found or made the theme of its name, if it has one. -/
theorem Sound.result (h : w.Sound b₀ raws) {i : Nat} {raw : String} (hraw : raws[i]? = some raw)
    {r : Except Error (Option Uuid)} (hr : w.result? i = some r) :
    (Theme.normalizeName raw = none ∧ r = .ok none) ∨
      ∃ t ∈ w.themes, Theme.normalizeName raw = some t.name ∧ r = .ok (some t.id) := by
  obtain ⟨⟨past, rest⟩, ht, rfl⟩ := Interleaving.result?_eq_some_iff.mp hr
  cases h.stages i raw _ hraw ht with
  | nameless absent => exact .inl ⟨absent, rfl⟩
  | @resolved _ t normal mem => exact .inr ⟨t, mem, normal, rfl⟩

private theorem filter_name_eq_singleton {themes : List Theme}
    (distinct : (themes.map Theme.name).Nodup) {t : Theme} (ht : t ∈ themes) :
    themes.filter (fun u => u.name = t.name) = [t] := by
  induction themes with
  | nil => cases ht
  | cons u themes ih =>
    obtain ⟨hu, distinct⟩ := List.nodup_cons.mp distinct
    rcases List.mem_cons.mp ht with rfl | ht
    · have others : ∀ v ∈ themes, ¬ v.name = t.name :=
        fun v hv hname => hu (hname ▸ List.mem_map_of_mem hv)
      simpa using others
    · have hne : u.name ≠ t.name := fun hname => hu (hname ▸ List.mem_map_of_mem ht)
      rw [List.filter_cons_of_neg (by simpa using hne), ih distinct ht]

/-- What callers come to that resolve these raw names over a backend, after some turns. -/
structure Agreement (b : Backend) (raws : List String) (turns : List Turn) (w : Callers) :
    Prop where
  /-- Three answers are enough for each of them. -/
  returns : ∀ i < raws.length, 3 ≤ (turns.countP fun t => t.caller = i) →
    ∃ r, w.result? i = some r
  nameless : ∀ i r, raws[i]? = some "" → w.result? i = some r → r = .ok none
  /-- One that has returned has the theme of its name, and there is one such theme. -/
  named : ∀ i raw r, raws[i]? = some raw → raw ≠ "" → w.result? i = some r →
    ∃ name t, Theme.normalizeName raw = some name ∧
      w.themes.filter (fun u => u.name = name) = [t] ∧ r = .ok (some t.id)
  agree : ∀ i j raw raw' r r', raws[i]? = some raw → raws[j]? = some raw' →
    Theme.normalizeName raw = Theme.normalizeName raw' →
    w.result? i = some r → w.result? j = some r' → r = r'
  neverLost : ∀ i name, w.result? i ≠ some (.error (lostTheme name))
  distinct : (w.themes.map Theme.name).Nodup
  kept : b.store.themes <+: w.themes
  asked : ∀ t ∈ w.themes, t ∈ b.store.themes ∨
    ∃ raw ∈ raws, Theme.normalizeName raw = some t.name

/-- In whatever order the calls are answered, and whatever first searches overlook, callers that
resolve names over a store return themes, those of one normalized name the same theme, and there is
one theme under each name. -/
theorem agreement_run {b : Backend} (h : b.store.Reachable) (provider : Provider)
    (raws : List String) (turns : List Turn) :
    Agreement b raws turns ((calling b raws).run provider turns) := by
  have sound := (sound_calling h.distinct.names raws).run provider turns
  refine ⟨fun i hi hturns => ?_, fun i r hraw hr => ?_, fun i raw r hraw hne hr => ?_,
    fun i j raw raw' r r' hraw hraw' hname hr hr' => ?_, fun i name hr => ?_, sound.distinct,
    sound.kept, sound.asked⟩
  · have start : (calling b raws).threads[i]? = some ⟨[], ExceptT.run (resolveTheme raws[i])⟩ := by
      simp [calling, Interleaving.launched, hi]
    rcases past_run start provider turns with ended | ⟨t, ht, hlength⟩
    · exact ended
    · have stage := sound.stages i raws[i] t (List.getElem?_eq_getElem hi) ht
      cases hrest : t.rest.result? with
      | some r => exact ⟨r, by rw [Interleaving.result?, ht]; exact hrest⟩
      | none =>
        have fewer := stage.answered hrest
        rw [hlength, List.length_nil] at fewer
        omega
  · rcases sound.result hraw hr with ⟨_, rfl⟩ | ⟨t, _, normal, _⟩
    · rfl
    · cases normal
  · rcases sound.result hraw hr with ⟨absent, _⟩ | ⟨t, ht, normal, rfl⟩
    · simp [Theme.normalizeName, hne] at absent
    · exact ⟨t.name, t, normal, filter_name_eq_singleton sound.distinct ht, rfl⟩
  · rcases sound.result hraw hr with ⟨absent, rfl⟩ | ⟨t, ht, normal, rfl⟩ <;>
      rcases sound.result hraw' hr' with ⟨absent', rfl⟩ | ⟨t', ht', normal', rfl⟩
    · rfl
    · rw [absent, normal'] at hname
      cases hname
    · rw [normal, absent'] at hname
      cases hname
    · rw [normal, normal', Option.some.injEq] at hname
      have same := (filter_name_eq_singleton sound.distinct ht).symm.trans
        (hname ▸ filter_name_eq_singleton sound.distinct ht')
      rw [List.singleton_inj.mp same]
  · obtain ⟨t, ht, _⟩ := Interleaving.result?_eq_some_iff.mp hr
    obtain ⟨hi, _⟩ := List.getElem?_eq_some_iff.mp ht
    have hraw := List.getElem?_eq_getElem (sound.length ▸ hi)
    rcases sound.result hraw hr with ⟨_, hr⟩ | ⟨_, _, _, hr⟩ <;> cases hr

def rivals : List String := ["Export Issues", "export-issues", "EXPORT ISSUES"]

/-- Two callers find nothing before one of them makes the theme, and a third overlooks it then. -/
def race : List Turn :=
  [(0, false), (1, false), (0, false), (1, false), (2, true), (2, false), (1, false), (2, false),
    (0, false)].map fun (caller, overlooks) => ⟨caller, overlooks, default, default⟩

theorem agreement_of_rivals :
    Agreement .vacant rivals race ((calling .vacant rivals).run (fun _ _ => .ok []) race) ∧
      ∃ id, ∀ i < 3, ((calling .vacant rivals).run (fun _ _ => .ok []) race).result? i =
        some (.ok (some id)) := by
  have agreement := agreement_run (b := .vacant) .empty (fun _ _ => .ok []) rivals race
  obtain ⟨r, hr⟩ := agreement.returns 0 (by decide) (by decide)
  obtain ⟨_, t, _, _, rfl⟩ := agreement.named 0 "Export Issues" r rfl (by decide) hr
  refine ⟨agreement, t.id, fun i hi => ?_⟩
  obtain ⟨r', hr'⟩ := agreement.returns i hi (by decide +revert)
  have alike : ∀ raw ∈ rivals, Theme.normalizeName "Export Issues" = Theme.normalizeName raw := by
    decide
  have there := List.getElem?_eq_getElem (l := rivals) hi
  rw [hr', agreement.agree 0 i "Export Issues" rivals[i] _ r' rfl there
    (alike _ (List.getElem_mem hi)) hr hr']

end Callers

end MeetingInsights.Merge
