import MeetingInsights.Proofs.TypedFields
import MeetingInsights.Wire.Finding

/-! # Malformed findings

What an item of an answer has to look like to be a finding, said of the document alone: its tag names
a kind, and each field it gives has the type of that field. Nothing is read of an item that looks
otherwise.
-/

namespace MeetingInsights

open Json

def Quote.fields : List Field := [⟨"quote", IsText⟩, ⟨"context", IsNullableText⟩]

private theorem Quote.isRecord_of_decode {depth : Nat} (d : Doc) (q : Quote)
    (h : Quote.decode depth d = some q) : IsRecord Quote.fields d := by
  obtain ⟨slots, read, h⟩ := Option.bind_eq_some_iff.mp h
  split at h
  case h_2 => nomatch h
  case h_1 text context =>
    obtain ⟨t, quoted, h⟩ := Option.bind_eq_some_iff.mp h
    obtain ⟨c, told, -⟩ := Option.bind_eq_some_iff.mp h
    have fit : SlotsFit Quote.fields [text, context] :=
      .cons (Slot.fits_of_withDefault (fun _ _ => isText_of_text) quoted)
        (.cons (Slot.fits_of_nullableOrAbsent (fun _ _ => isText_of_text) told) .nil)
    exact isRecord_of_slots? (by decide) read fit

theorem Slot.fits_quotes {depth : Nat} {slot : Slot} {qs : List Quote}
    (h : slot.withDefault [] (list Quote.decode) depth = some qs) :
    slot.Fits (IsListOf (IsRecord Quote.fields)) :=
  Slot.fits_of_withDefault (fun _ _ => isListOf_of_list Quote.isRecord_of_decode) h

def Match.fields : List Field :=
  [⟨"existing_opportunity_id", IsNullableText⟩,
    ⟨"evidence_quotes", IsListOf (IsRecord Quote.fields)⟩]

theorem Match.slotsFit_of_ofSlots? {depth : Nat} {slots : List Slot} {m : Match}
    (h : Match.ofSlots? depth slots = some m) : SlotsFit Match.fields slots := by
  unfold Match.ofSlots? at h
  split at h
  case h_2 => nomatch h
  case h_1 =>
    obtain ⟨_, reference, h⟩ := Option.bind_eq_some_iff.mp h
    obtain ⟨_, quotes, -⟩ := Option.bind_eq_some_iff.mp h
    refine .cons ?_ (.cons (Slot.fits_quotes quotes) .nil)
    exact Slot.fits_of_nullableOrAbsent (fun _ _ => isText_of_text) reference

def Proposal.fields : List Field :=
  [⟨"user_segment", IsText⟩, ⟨"struggle", IsText⟩, ⟨"why_it_matters", IsNullableText⟩,
    ⟨"workaround", IsNullableText⟩, ⟨"theme", IsNullableText⟩,
    ⟨"evidence_quotes", IsListOf (IsRecord Quote.fields)⟩]

theorem Proposal.slotsFit_of_ofSlots? {depth : Nat} {slots : List Slot} {p : Proposal}
    (h : Proposal.ofSlots? depth slots = some p) : SlotsFit Proposal.fields slots := by
  unfold Proposal.ofSlots? at h
  split at h
  case h_2 => nomatch h
  case h_1 =>
    obtain ⟨_, segment, h⟩ := Option.bind_eq_some_iff.mp h
    obtain ⟨_, struggle, h⟩ := Option.bind_eq_some_iff.mp h
    obtain ⟨_, why, h⟩ := Option.bind_eq_some_iff.mp h
    obtain ⟨_, workaround, h⟩ := Option.bind_eq_some_iff.mp h
    obtain ⟨_, theme, h⟩ := Option.bind_eq_some_iff.mp h
    obtain ⟨_, quotes, -⟩ := Option.bind_eq_some_iff.mp h
    have text {slot : Slot} {s : String} (h : slot.withDefault "" Json.text depth = some s) :
        slot.Fits IsText := Slot.fits_of_withDefault (fun _ _ => isText_of_text) h
    have nullable {slot : Slot} {s : Option String}
        (h : slot.nullableOrAbsent Json.text depth = some s) : slot.Fits IsNullableText :=
      Slot.fits_of_nullableOrAbsent (fun _ _ => isText_of_text) h
    exact .cons (text segment) (.cons (text struggle) (.cons (nullable why)
      (.cons (nullable workaround) (.cons (nullable theme) (.cons (Slot.fits_quotes quotes) .nil)))))

namespace Finding

/-- The kinds of findings, and the fields of each behind the tag. -/
def kinds : List (String × List Field) := [("match", Match.fields), ("new", Proposal.fields)]

/-- A document stands in an item for its tag. -/
abbrev Tags (d tag : Doc) : Prop := Gives [tagKey] d tagKey tag

/-- An item that cannot be a finding: it has no tag, its tag names no kind, or a field has not the
type that it has in a finding of its kind. -/
inductive Malformed (d : Doc) : Prop where
  | untagged (none : ∀ tag, ¬ Tags d tag)
  | mistagged {tag : Doc} (tagged : Tags d tag)
      (unknown : ∀ s, tag = .string s → ∀ k ∈ kinds, Literal.text? s ≠ some k.1)
  | mistyped {s : Literal} {kind : String} {fields : List Field} (known : (kind, fields) ∈ kinds)
      (tagged : Tags d (.string s)) (named : Literal.text? s = some kind) {f : Field} {v : Doc}
      (listed : f ∈ fields) (given : Gives (tagKey :: fields.map Field.name) d f.name v)
      (misfit : ¬ f.fits v)

/-- What a document looks like that a finding has been read of. -/
structure HasKind (kind : String) (fields : List Field) (d : Doc) : Prop where
  known : (kind, fields) ∈ kinds
  tag : ∃ s, Literal.text? s = some kind ∧ ∀ v, Tags d v ↔ v = .string s
  fits : ∀ f ∈ fields, ∀ v, Gives (tagKey :: fields.map Field.name) d f.name v → f.fits v

def isTag (m : Literal × Doc) : Bool := decide (Literal.text? m.1 = some tagKey)

private theorem splitTag_eq (ms : List (Literal × Doc)) :
    splitTag ms = ((ms.filter isTag).map Prod.snd, ms.filter fun m => !isTag m) := by
  induction ms with
  | nil => rfl
  | cons m ms ih =>
    rw [splitTag, ih]
    by_cases tagged : Literal.text? m.1 = some tagKey <;> simp [isTag, tagged]

theorem slotsFit_of_ofTag? {tag : Doc} {slots : List String → Option (List Slot)} {depth : Nat}
    {f : Finding} (h : ofTag? tag slots depth = some f) :
    ∃ s kind fields read, tag = .string s ∧ Literal.text? s = some kind ∧ (kind, fields) ∈ kinds ∧
      slots (fields.map Field.name) = some read ∧ SlotsFit fields read := by
  obtain ⟨kind, named, read⟩ := Option.bind_eq_some_iff.mp h
  obtain ⟨s, rfl⟩ := isText_of_text named
  split at read
  case isTrue same =>
    obtain ⟨read, slotted, h⟩ := Option.bind_eq_some_iff.mp read
    obtain ⟨m, value, -⟩ := Option.bind_eq_some_iff.mp h
    exact ⟨s, kind, Match.fields, read, rfl, named, by simp [kinds, same], slotted,
      Match.slotsFit_of_ofSlots? value⟩
  case isFalse other =>
    rw [Option.ite_none_right_eq_some] at read
    obtain ⟨same, h⟩ := read
    obtain ⟨read, slotted, h⟩ := Option.bind_eq_some_iff.mp h
    obtain ⟨m, value, -⟩ := Option.bind_eq_some_iff.mp h
    exact ⟨s, kind, Proposal.fields, read, rfl, named, by simp [kinds, same], slotted,
      Proposal.slotsFit_of_ofSlots? value⟩

theorem distinct_of_kinds {kind : String} {fields : List Field} (known : (kind, fields) ∈ kinds) :
    (tagKey :: fields.map Field.name).Nodup := by
  simp only [kinds, List.mem_cons, List.not_mem_nil, or_false, Prod.mk.injEq] at known
  rcases known with ⟨-, rfl⟩ | ⟨-, rfl⟩ <;> decide

section

variable {s : Literal} {kind : String} {fields : List Field} {slots : List Slot}
  (named : Literal.text? s = some kind) (known : (kind, fields) ∈ kinds)
  (fit : SlotsFit fields slots)
include named known fit

private theorem hasKind_of_slotsByName {ms rest : List (Literal × Doc)}
    (tagged : splitTag ms = ([.string s], rest))
    (read : slotsByName (fields.map Field.name) rest = some slots) :
    HasKind kind fields (.object ms) := by
  obtain ⟨fresh, distinct⟩ := List.nodup_cons.mp (distinct_of_kinds known)
  rw [splitTag_eq, Prod.mk.injEq] at tagged
  obtain ⟨tags, others⟩ := tagged
  have tag (v : Doc) : Tags (.object ms) v ↔ v = .string s := by
    have mem : v ∈ (ms.filter isTag).map Prod.snd ↔ v = .string s := by
      rw [tags, List.mem_singleton]
    rw [← mem, Tags, gives_object_iff, List.mem_map]
    constructor
    · rintro ⟨k, given, key⟩
      exact ⟨(k, v), List.mem_filter.mpr ⟨given, decide_eq_true key⟩, rfl⟩
    · rintro ⟨⟨k, v⟩, h, rfl⟩
      obtain ⟨given, key⟩ := List.mem_filter.mp h
      exact ⟨k, given, of_decide_eq_true key⟩
  refine ⟨known, ⟨s, named, tag⟩, fun f listed v h => ?_⟩
  obtain ⟨k, given, key⟩ := gives_object_iff.mp h
  have other : Literal.text? k ≠ some tagKey := fun same =>
    fresh (List.mem_map.mpr ⟨f, listed, Option.some.inj (key.symm.trans same)⟩)
  have kept : (k, v) ∈ rest := by
    rw [← others]
    exact List.mem_filter.mpr ⟨given, by simp [isTag, other]⟩
  exact fits_of_held fit (held_of_slotsByName distinct read) f listed v (.member kept key)

private theorem hasKind_of_slotsByPosition {items : List Doc}
    (read : slotsByPosition (fields.map Field.name) items = some slots) :
    HasKind kind fields (.array (.string s :: items)) := by
  obtain ⟨fresh, distinct⟩ := List.nodup_cons.mp (distinct_of_kinds known)
  have tag (v : Doc) : Tags (.array (.string s :: items)) v ↔ v = .string s := by
    rw [Tags, gives_array_iff]
    constructor
    · rintro ⟨_ | i, listed, given⟩
      · exact (Option.some.inj given).symm
      · nomatch listed
    · rintro rfl
      exact ⟨0, rfl, rfl⟩
  refine ⟨known, ⟨s, named, tag⟩, fun f listed v h => ?_⟩
  have other : f.name ≠ tagKey := ne_of_mem_of_not_mem (List.mem_map_of_mem listed) fresh
  exact fits_of_held fit (held_of_slotsByPosition distinct read) f listed v
    ((gives_array_cons_iff other).mp h)

end

private theorem hasKind_of_decode {depth : Nat} {d : Doc} {f : Finding}
    (h : decode depth d = some f) : ∃ kind fields, HasKind kind fields d := by
  unfold decode at h
  rw [Option.ite_none_right_eq_some] at h
  obtain ⟨-, h⟩ := h
  cases d with
  | object ms =>
    simp only at h
    split at h
    case h_1 tag rest tagged =>
      obtain ⟨s, kind, fields, slots, rfl, named, known, read, fit⟩ := slotsFit_of_ofTag? h
      exact ⟨kind, fields, hasKind_of_slotsByName named known fit tagged read⟩
    case h_2 => nomatch h
  | array items =>
    cases items with
    | nil => nomatch h
    | cons tag items =>
      obtain ⟨s, kind, fields, slots, rfl, named, known, read, fit⟩ := slotsFit_of_ofTag? h
      exact ⟨kind, fields, hasKind_of_slotsByPosition named known fit read⟩
  | _ => nomatch h

private theorem HasKind.not_malformed {kind : String} {fields : List Field} {d : Doc}
    (h : HasKind kind fields d) : ¬ Malformed d := by
  obtain ⟨known, ⟨s, named, tag⟩, fits⟩ := h
  intro bad
  cases bad with
  | untagged none => exact none _ ((tag _).mpr rfl)
  | mistagged tagged unknown => exact unknown s ((tag _).mp tagged) _ known named
  | mistyped known' tagged named' listed given misfit =>
    cases (tag _).mp tagged
    cases named.symm.trans named'
    have same := List.inj_on_of_nodup_map (by decide : (kinds.map Prod.fst).Nodup) known known' rfl
    cases same
    exact misfit (fits _ listed _ given)

theorem decode_of_malformed {d : Doc} (bad : Malformed d) (depth : Nat) : decode depth d = none := by
  by_contra read
  obtain ⟨f, read⟩ := Option.ne_none_iff_exists'.mp read
  obtain ⟨kind, fields, shape⟩ := hasKind_of_decode read
  exact shape.not_malformed bad

end Finding

end MeetingInsights
