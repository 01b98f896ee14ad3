import MeetingInsights.Proofs.AsciiTexts
import MeetingInsights.Proofs.SettledNames
import Mathlib.Data.List.Forall2

/-! # Variants of theme names

Which ASCII names lead to one theme: those that differ in letter case and in spaces against hyphens
at the same places, and no others. Names have one normalized form exactly if they are such variants,
and rows of a store are told apart by identifier and by normalized name alike.
-/

namespace MeetingInsights

namespace Theme

/-- Characters that may stand for each other: a letter in either case, and space and hyphen. -/
def Interchangeable (c d : Char) : Prop :=
  c.toLower = d.toLower ∨ (c = ' ' ∨ c = '-') ∧ (d = ' ' ∨ d = '-')

instance (c d : Char) : Decidable (Interchangeable c d) :=
  inferInstanceAs (Decidable (c.toLower = d.toLower ∨ (c = ' ' ∨ c = '-') ∧ (d = ' ' ∨ d = '-')))

/-- Names of one length that have interchangeable characters at every position. -/
def Variants (x y : String) : Prop := List.Forall₂ Interchangeable x.toList y.toList

instance (x y : String) : Decidable (Variants x y) :=
  inferInstanceAs (Decidable (List.Forall₂ Interchangeable x.toList y.toList))

theorem separates_toLower_iff {c : Char} :
    c.toLower = ' ' ∨ c.toLower = '-' ↔ c = ' ' ∨ c = '-' := by
  by_cases ascii : c.toNat < 128
  · exact Text.forall_ascii
      (P := fun c => c.toLower = ' ' ∨ c.toLower = '-' ↔ c = ' ' ∨ c = '-') (by decide +kernel) c
      ascii
  · rw [Text.toLower_of_not_ascii ascii]

theorem toLower_hyphenate_of_separates {c : Char} (separates : c = ' ' ∨ c = '-') :
    (hyphenate c).toLower = '-' := by
  rcases separates with rfl | rfl <;> decide

theorem hyphenate_of_not_separates {c : Char} (letter : ¬ (c = ' ' ∨ c = '-')) :
    hyphenate c = c := if_neg fun space => letter (.inl space)

theorem Interchangeable.symm {c d : Char} (h : Interchangeable c d) : Interchangeable d c :=
  h.imp Eq.symm And.symm

theorem apart_of_separates {c d : Char} (separates : c = ' ' ∨ c = '-')
    (letter : ¬ (d = ' ' ∨ d = '-')) :
    (hyphenate c).toLower ≠ (hyphenate d).toLower ∧ ¬ Interchangeable c d := by
  rw [toLower_hyphenate_of_separates separates, hyphenate_of_not_separates letter]
  constructor
  · exact fun lowered => letter (separates_toLower_iff.mp (.inr lowered.symm))
  · rintro (lowered | ⟨-, between⟩)
    · have both := separates_toLower_iff.mpr separates
      rw [lowered] at both
      exact letter (separates_toLower_iff.mp both)
    · exact letter between

private theorem toLower_hyphenate_eq_iff {c d : Char} :
    (hyphenate c).toLower = (hyphenate d).toLower ↔ Interchangeable c d := by
  -- Separators end as hyphens, and nothing else does, so both are separators or neither is.
  by_cases hc : c = ' ' ∨ c = '-' <;> by_cases hd : d = ' ' ∨ d = '-'
  · rw [toLower_hyphenate_of_separates hc, toLower_hyphenate_of_separates hd]
    exact iff_of_true rfl (.inr ⟨hc, hd⟩)
  · obtain ⟨lowered, apart⟩ := apart_of_separates hc hd
    exact iff_of_false lowered apart
  · obtain ⟨lowered, apart⟩ := apart_of_separates hd hc
    exact iff_of_false lowered.symm (mt Interchangeable.symm apart)
  · rw [hyphenate_of_not_separates hc, hyphenate_of_not_separates hd]
    exact ⟨.inl, fun h => h.resolve_right fun both => hc both.1⟩

theorem normalizeChars_of_ascii {cs : List Char} (ascii : Text.Ascii cs) :
    normalizeChars cs = cs.map fun c => (hyphenate c).toLower := by
  have hyphenated : Text.Ascii (cs.map hyphenate) := by
    refine ascii.map fun c small => ?_
    unfold hyphenate
    split
    · decide
    · exact small
  rw [normalizeChars, Text.lowerChars_of_ascii hyphenated, List.map_map]
  rfl

private theorem normalizeChars_eq_iff {cs ds : List Char} (hcs : Text.Ascii cs)
    (hds : Text.Ascii ds) :
    normalizeChars cs = normalizeChars ds ↔ List.Forall₂ Interchangeable cs ds := by
  rw [normalizeChars_of_ascii hcs, normalizeChars_of_ascii hds, ← List.forall₂_eq_eq_eq,
    List.forall₂_map_left_iff, List.forall₂_map_right_iff]
  simp only [toLower_hyphenate_eq_iff]

/-- Names have one normalized form if they are variants, and in no other case. -/
theorem normal_eq_iff_variants {x y xName yName : String} (hx : Text.Ascii x.toList)
    (hy : Text.Ascii y.toList) (xNormal : normalizeName x = some xName)
    (yNormal : normalizeName y = some yName) : xName = yName ↔ Variants x y := by
  rw [← String.toList_inj, (normalizeName_eq_some_iff.mp xNormal).2,
    (normalizeName_eq_some_iff.mp yNormal).2, normalizeChars_eq_iff hx hy, Variants]

theorem exists_normal {raw : String} (nonempty : raw ≠ "") :
    ∃ name, normalizeName raw = some name :=
  Option.ne_none_iff_exists'.mp fun none => nonempty (normalizeName_eq_none_iff.mp none)

end Theme

namespace Merge

variable {b : Backend}

private theorem Files.id_eq_iff {s : Store} (distinct : s.Distinct) {x y : String} {i j : Uuid}
    (hx : Files s (some x) (some i)) (hy : Files s (some y) (some j)) : i = j ↔ x = y := by
  cases hx with
  | some xFound =>
    cases hy with
    | some yFound =>
      obtain ⟨t, tFound, rfl⟩ := xFound
      obtain ⟨u, uFound, rfl⟩ := yFound
      obtain ⟨tStored, rfl⟩ := Store.findTheme?_eq_some tFound
      obtain ⟨uStored, rfl⟩ := Store.findTheme?_eq_some uFound
      constructor
      · intro same
        rw [List.inj_on_of_nodup_map distinct.themes tStored uStored same]
      · intro same
        rw [List.inj_on_of_nodup_map distinct.names tStored uStored same]

private theorem store_settleTheme (b : Backend) (provider : Provider) (name : String) :
    (settleTheme b name).2.store = (b.perform provider (.createTheme name)).2.store := by
  simp only [settleTheme, Backend.perform, Store.createTheme]
  cases b.store.findTheme? name <;> rfl

theorem reachable_settleTheme (reachable : b.store.Reachable) (new : b.SuppliesNew)
    (calm : b.faults = []) (provider : Provider) (name : String) :
    (settleTheme b name).2.store.Reachable := by
  rw [store_settleTheme b provider, ← Backend.answer_of_faultless calm]
  exact .answer provider (.createTheme name) reachable new

/-- Of two ASCII names that are not empty, the second gets the theme of the first if they are
variants, and another theme if they are not, whatever others have done to the store in between. -/
theorem sameTheme_iff_variants {x y : String} (xSome : x ≠ "") (ySome : y ≠ "")
    (hx : Text.Ascii x.toList) (hy : Text.Ascii y.toList) {b : Backend}
    (reachable : b.store.Reachable) (new : b.SuppliesNew) (calm : b.faults = [])
    (provider : Provider) :
    ∃ i b', (resolveTheme x).run provider b = (.ok (some i), b') ∧ b'.store.Reachable ∧
      ∀ (later : Backend) (provider' : Provider), b'.store.Leads later.store →
        later.store.Reachable → later.SuppliesNew → later.faults = [] →
        ∃ j b'', (resolveTheme y).run provider' later = (.ok (some j), b'') ∧
          (i = j ↔ Theme.Variants x y) := by
  obtain ⟨xName, xNormal⟩ := Theme.exists_normal xSome
  obtain ⟨yName, yNormal⟩ := Theme.exists_normal ySome
  have first := run_resolveTheme calm provider xNormal
  refine ⟨_, _, first, reachable_settleTheme reachable new calm provider xName, ?_⟩
  intro later provider' leads laterReachable laterNew laterCalm
  have second := run_resolveTheme laterCalm provider' yNormal
  refine ⟨_, _, second, ?_⟩
  have xFiles := files_of_run xNormal first
  have yFiles := files_of_run yNormal second
  have between : later.store.Leads ((resolveTheme y).run provider' later).2.store :=
    Program.leads_run _ provider' later
  rw [second] at between
  have distinct :=
    (reachable_settleTheme laterReachable laterNew laterCalm provider' yName).distinct
  rw [Files.id_eq_iff distinct (xFiles.mono (leads.trans between).themes) yFiles,
    Theme.normal_eq_iff_variants hx hy xNormal yNormal]

theorem sameTheme_of_exportNames :
    ∃ i b', (resolveTheme "Export Issues").run (fun _ _ => .ok []) .vacant = (.ok (some i), b') ∧
      (∃ b'', (resolveTheme "EXPORT-issues").run (fun _ _ => .ok []) b' = (.ok (some i), b'')) ∧
      ∃ j b'', (resolveTheme "Export_Issues").run (fun _ _ => .ok []) b' = (.ok (some j), b'') ∧
        i ≠ j := by
  have new : ((resolveTheme "Export Issues").run (fun _ _ => .ok []) .vacant).2.SuppliesNew := by
    decide +kernel
  have calm : ((resolveTheme "Export Issues").run (fun _ _ => .ok []) .vacant).2.faults = [] := by
    decide +kernel
  have variant {y : String} (hy : Text.Ascii y.toList) (ySome : y ≠ "") :=
    sameTheme_iff_variants (x := "Export Issues") (by decide) ySome (by decide) hy
      (b := .vacant) .empty (by decide) rfl fun _ _ => .ok []
  obtain ⟨i, b', resolved, reachable, again⟩ :=
    variant (y := "EXPORT-issues") (by decide) (by decide)
  obtain ⟨_, _, resolved', _, other⟩ := variant (y := "Export_Issues") (by decide) (by decide)
  obtain ⟨⟨⟩⟩ := resolved'.symm.trans resolved
  rw [resolved] at new calm
  obtain ⟨j, c, second, same⟩ := again b' (fun _ _ => .ok []) .refl reachable new calm
  obtain ⟨k, d, third, differs⟩ := other b' (fun _ _ => .ok []) .refl reachable new calm
  refine ⟨_, b', resolved, ⟨c, ?_⟩, k, d, third, fun eq => ?_⟩
  · rw [second, same.mpr (by decide)]
  · exact absurd (differs.mp eq) (by decide)

end Merge

end MeetingInsights
