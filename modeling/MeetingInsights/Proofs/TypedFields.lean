import MeetingInsights.Json.Fields
import Mathlib.Data.List.Forall2
import Mathlib.Data.List.Nodup

/-! # Typed fields

The fields of a record, said of its document alone: an object gives them by name and an array by
position. What the slots hold that have been read of a record is what the record gives, and nothing
else.
-/

namespace MeetingInsights.Json

/-- A document stands in a record for a field: in an object under its name, in an array where the
field has its place. -/
inductive Gives (names : List String) : Doc → String → Doc → Prop where
  | member {ms : List (Literal × Doc)} {n : String} {k : Literal} {v : Doc} (given : (k, v) ∈ ms)
      (named : Literal.text? k = some n) : Gives names (.object ms) n v
  | item {ds : List Doc} {n : String} {v : Doc} {i : Nat} (listed : names[i]? = some n)
      (given : ds[i]? = some v) : Gives names (.array ds) n v

theorem gives_object_iff {names : List String} {ms : List (Literal × Doc)} {n : String} {v : Doc} :
    Gives names (.object ms) n v ↔ ∃ k, (k, v) ∈ ms ∧ Literal.text? k = some n :=
  ⟨fun | .member given named => ⟨_, given, named⟩, fun ⟨_, given, named⟩ => .member given named⟩

theorem gives_array_iff {names : List String} {ds : List Doc} {n : String} {v : Doc} :
    Gives names (.array ds) n v ↔ ∃ i : Nat, names[i]? = some n ∧ ds[i]? = some v :=
  ⟨fun | .item listed given => ⟨_, listed, given⟩, fun ⟨_, listed, given⟩ => .item listed given⟩

theorem gives_array_cons_iff {names : List String} {ds : List Doc} {m n : String} {d v : Doc}
    (other : n ≠ m) : Gives (m :: names) (.array (d :: ds)) n v ↔ Gives names (.array ds) n v := by
  rw [gives_array_iff, gives_array_iff]
  constructor
  · rintro ⟨_ | i, listed, given⟩
    · exact absurd (Option.some.inj listed).symm other
    · exact ⟨i, listed, given⟩
  · rintro ⟨i, listed, given⟩
    exact ⟨i + 1, listed, given⟩

theorem not_gives_nil {names : List String} {n : String} {v : Doc} :
    ¬ Gives names (.array []) n v := by
  rw [gives_array_iff]
  rintro ⟨_, -, given⟩
  cases given

section

variable {α β : Type} {R S : α → β → Prop} {as : List α} {bs : List β}

theorem exists_of_forall₂ (h : List.Forall₂ R as bs) : ∀ a ∈ as, ∃ b, R a b := by
  induction h with
  | nil => exact fun _ none => nomatch none
  | cons first _ ih => exact List.forall_mem_cons.mpr ⟨⟨_, first⟩, ih⟩

private theorem forall₂_imp_of_mem (h : List.Forall₂ R as bs) (imp : ∀ a ∈ as, ∀ b, R a b → S a b) :
    List.Forall₂ S as bs :=
  ((List.forall₂_and_left as bs).mpr ⟨imp, h⟩).imp fun _ b both => both.1 b both.2

theorem mapM_eq_some_iff {f : α → Option β} :
    as.mapM f = some bs ↔ List.Forall₂ (fun a b => f a = some b) as bs := by
  induction as generalizing bs with
  | nil => simp [eq_comm]
  | cons a as ih =>
    rw [List.mapM_cons, List.forall₂_cons_left_iff]
    constructor
    · intro h
      obtain ⟨b, first, h⟩ := Option.bind_eq_some_iff.mp h
      obtain ⟨bs, others, h⟩ := Option.bind_eq_some_iff.mp h
      cases h
      exact ⟨b, bs, first, ih.mp others, rfl⟩
    · rintro ⟨b, bs, first, others, rfl⟩
      rw [first, ih.mpr others]
      rfl

end

/-- Each slot holds exactly what the record gives for its field. -/
abbrev Held (names : List String) (d : Doc) (slots : List Slot) : Prop :=
  List.Forall₂ (fun n slot => ∀ v, slot = .given v ↔ Gives names d n v) names slots

variable {names : List String} {slots slots' : List Slot} {d : Doc}

private theorem forall₂_of_fill {P Q : String → Slot → Prop} (distinct : names.Nodup) {k : String}
    (filled : slotsByName.fill k d names slots = some slots') (before : List.Forall₂ P names slots)
    (here : ∀ slot, P k slot → (∀ v, slot ≠ .given v) → Q k (.given d))
    (there : ∀ n slot, n ≠ k → P n slot → Q n slot) : List.Forall₂ Q names slots' := by
  induction before generalizing slots' with
  | nil => cases filled; exact .nil
  | @cons name slot names slots first rest ih =>
    obtain ⟨fresh, distinct⟩ := List.nodup_cons.mp distinct
    simp only [slotsByName.fill] at filled
    split at filled
    case isTrue same =>
      subst same
      have others := forall₂_imp_of_mem rest fun n hn slot =>
        there n slot (ne_of_mem_of_not_mem hn fresh)
      cases slot with
      | given => nomatch filled
      | absent | beyond =>
        cases filled
        exact .cons (here _ first fun _ given => nomatch given) others
    case isFalse other =>
      obtain ⟨rest', below, rfl⟩ := Option.map_eq_some_iff.mp filled
      exact .cons (there name slot other first) (ih distinct below)

theorem held_of_slotsByName (distinct : names.Nodup) {ms : List (Literal × Doc)}
    (read : slotsByName names ms = some slots) : Held names (.object ms) slots := by
  simp only [Held, gives_object_iff]
  induction ms generalizing slots with
  | nil =>
    cases read
    rw [List.forall₂_map_right_iff, List.forall₂_same]
    simp
  | cons m ms ih =>
    obtain ⟨k, d⟩ := m
    obtain ⟨n, named, read⟩ := Option.bind_eq_some_iff.mp read
    obtain ⟨before, others, filled⟩ := Option.bind_eq_some_iff.mp read
    refine forall₂_of_fill distinct filled (ih others) ?_ ?_
    · refine fun slot held empty v => ⟨fun h => ?_, fun ⟨k', given, named'⟩ => ?_⟩
      · cases h
        exact ⟨k, List.mem_cons_self, named⟩
      · rcases List.mem_cons.mp given with same | given
        · cases same
          rfl
        · exact absurd ((held v).mpr ⟨k', given, named'⟩) (empty v)
    · refine fun n' slot other held v => (held v).trans ⟨?_, fun ⟨k', given, named'⟩ => ?_⟩
      · exact fun ⟨k', given, named'⟩ => ⟨k', List.mem_cons_of_mem _ given, named'⟩
      · rcases List.mem_cons.mp given with same | given
        · cases same
          exact absurd (Option.some.inj (named'.symm.trans named)) other
        · exact ⟨k', given, named'⟩

theorem held_of_slotsByPosition (distinct : names.Nodup) {ds : List Doc}
    (read : slotsByPosition names ds = some slots) : Held names (.array ds) slots := by
  induction names generalizing ds slots with
  | nil =>
    cases ds with
    | nil => cases read; exact .nil
    | cons => nomatch read
  | cons name names ih =>
    obtain ⟨fresh, distinct⟩ := List.nodup_cons.mp distinct
    cases ds with
    | nil =>
      obtain ⟨rest, behind, rfl⟩ := Option.map_eq_some_iff.mp read
      refine .cons (fun v => ?_) ((ih distinct behind).imp fun n slot held v => ?_)
      · simp [not_gives_nil]
      · simp [held, not_gives_nil]
    | cons d ds =>
      obtain ⟨rest, behind, rfl⟩ := Option.map_eq_some_iff.mp read
      refine .cons (fun v => ?_) (forall₂_imp_of_mem (ih distinct behind) fun n hn slot held v => ?_)
      · constructor
        · intro same
          cases same
          exact .item (i := 0) rfl rfl
        · rw [gives_array_iff]
          rintro ⟨_ | i, listed, given⟩
          · rw [Option.some.inj given]
          · rw [List.getElem?_cons_succ] at listed
            exact absurd (List.mem_of_getElem? listed) fresh
      · rw [held, gives_array_cons_iff (ne_of_mem_of_not_mem hn fresh)]

theorem held_of_slots? (distinct : names.Nodup) {depth : Nat}
    (read : slots? names depth d = some slots) : Held names d slots := by
  cases d with
  | object ms =>
    rw [slots?, Option.ite_none_right_eq_some] at read
    exact held_of_slotsByName distinct read.2
  | array ds =>
    rw [slots?, Option.ite_none_right_eq_some] at read
    exact held_of_slotsByPosition distinct read.2
  | _ => nomatch read

/-- A field of a record, and the documents that may stand there. -/
structure Field where
  name : String
  fits : Doc → Prop

def IsText (d : Doc) : Prop := ∃ s, d = .string s

def IsNullableText (d : Doc) : Prop := d = .null ∨ IsText d

def IsListOf (fits : Doc → Prop) (d : Doc) : Prop := ∃ items, d = .array items ∧ ∀ v ∈ items, fits v

/-- An object or an array in which every field that is given has its type. -/
structure IsRecord (fields : List Field) (d : Doc) : Prop where
  container : (∃ ms, d = .object ms) ∨ ∃ ds, d = .array ds
  fits : ∀ f ∈ fields, ∀ v, Gives (fields.map Field.name) d f.name v → f.fits v

def Slot.Fits (fits : Doc → Prop) (slot : Slot) : Prop := ∀ v, slot = .given v → fits v

/-- Each slot holds what may stand in its field. -/
abbrev SlotsFit (fields : List Field) (slots : List Slot) : Prop :=
  List.Forall₂ (fun f slot => Slot.Fits f.fits slot) fields slots

theorem fits_of_held {fields : List Field} (fit : SlotsFit fields slots)
    (held : Held (fields.map Field.name) d slots) :
    ∀ f ∈ fields, ∀ v, Gives (fields.map Field.name) d f.name v → f.fits v := by
  intro f hf v given
  have both := List.Forall₂.mp (fun _ _ => And.intro) fit (List.forall₂_map_left_iff.mp held)
  obtain ⟨slot, fits, holds⟩ := exists_of_forall₂ both f hf
  exact fits v ((holds v).mpr given)

theorem isRecord_of_slots? {fields : List Field} (distinct : (fields.map Field.name).Nodup)
    {depth : Nat} (read : slots? (fields.map Field.name) depth d = some slots)
    (fit : SlotsFit fields slots) : IsRecord fields d where
  container := by
    cases d with
    | object ms => exact .inl ⟨ms, rfl⟩
    | array ds => exact .inr ⟨ds, rfl⟩
    | _ => nomatch read
  fits := fits_of_held fit (held_of_slots? distinct read)

section

variable {α : Type} {read : Decoder α} {fits : Doc → Prop} {depth : Nat} {slot : Slot}

theorem Slot.fits_of_withDefault (typed : ∀ v a, read depth v = some a → fits v) {value a : α}
    (h : slot.withDefault value read depth = some a) : slot.Fits fits := by
  rintro v rfl
  exact typed v a h

theorem Slot.fits_of_nullableOrAbsent (typed : ∀ v a, read depth v = some a → fits v)
    {a : Option α} (h : slot.nullableOrAbsent read depth = some a) :
    slot.Fits fun v => v = .null ∨ fits v := by
  rintro v rfl
  by_cases null : v = .null
  · exact .inl null
  · have present : (read depth v).map some = some a := by
      cases v with
      | null => exact absurd rfl null
      | _ => exact h
    obtain ⟨a, value, -⟩ := Option.map_eq_some_iff.mp present
    exact .inr (typed v a value)

theorem isText_of_text {d : Doc} {s : String} (h : text depth d = some s) : IsText d := by
  cases d with
  | string s => exact ⟨s, rfl⟩
  | _ => nomatch h

theorem exists_items_of_list {d : Doc} {as : List α} (h : list read depth d = some as) :
    ∃ items, d = .array items ∧ List.Forall₂ (fun v a => read (depth + 1) v = some a) items as := by
  cases d with
  | array items =>
    rw [list, Option.ite_none_right_eq_some] at h
    exact ⟨items, rfl, mapM_eq_some_iff.mp h.2⟩
  | _ => nomatch h

theorem isListOf_of_list (typed : ∀ v a, read (depth + 1) v = some a → fits v) {d : Doc}
    {as : List α} (h : list read depth d = some as) : IsListOf fits d := by
  obtain ⟨items, rfl, values⟩ := exists_items_of_list h
  refine ⟨items, rfl, fun v hv => ?_⟩
  obtain ⟨a, value⟩ := exists_of_forall₂ values v hv
  exact typed v a value

end

end MeetingInsights.Json
