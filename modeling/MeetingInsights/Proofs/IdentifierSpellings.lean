import MeetingInsights.Proofs.AsciiTexts
import MeetingInsights.Proofs.IdentifierTexts
import MeetingInsights.Proofs.TrimmedTexts
import Mathlib.Data.List.Induction

/-! # Spellings of identifiers

Which texts are read as an identifier: its 32 digits in letters of either case, bare, with hyphens, and
with the hyphens in braces or behind a mark, and no other text.
-/

namespace MeetingInsights

namespace Uuid

private theorem hexValue?_of_not_ascii {c : Char} (large : ¬ c.toNat < 128) :
    hexValue? c = none := by
  have beyond {d : Char} (small : d.toNat < 128) : ¬ c ≤ d := fun le =>
    large (Nat.lt_of_le_of_lt (UInt32.le_iff_toNat_le.mp le) small)
  rw [hexValue?, if_neg fun h => beyond (by decide) h.2, if_neg fun h => beyond (by decide) h.2,
    if_neg fun h => beyond (by decide) h.2]

private theorem hexValue?_toLower (c : Char) : hexValue? c.toLower = hexValue? c := by
  by_cases ascii : c.toNat < 128
  · exact Text.forall_ascii (P := fun c => hexValue? c.toLower = hexValue? c) (by decide +kernel) c
      ascii
  · rw [Text.toLower_of_not_ascii ascii]

theorem isBlank_toLower (c : Char) : Text.isBlank c.toLower = Text.isBlank c := by
  by_cases ascii : c.toNat < 128
  · exact Text.forall_ascii (P := fun c => Text.isBlank c.toLower = Text.isBlank c)
      (by decide +kernel) c ascii
  · rw [Text.toLower_of_not_ascii ascii]

private theorem toLower_of_hexValue? {c : Char} {d : Nat} (h : hexValue? c = some d) :
    d < 16 ∧ c.toLower = hexDigit d := by
  by_cases ascii : c.toNat < 128
  · exact Text.forall_ascii (P := fun c => ∀ d ∈ hexValue? c, d < 16 ∧ c.toLower = hexDigit d)
      (by decide +kernel) c ascii d h
  · rw [hexValue?_of_not_ascii ascii] at h
    cases h

private theorem hexNumber?_map_toLower (acc : Nat) (cs : List Char) :
    hexNumber? acc (cs.map Char.toLower) = hexNumber? acc cs := by
  induction cs generalizing acc with
  | nil => rfl
  | cons c cs ih => simp only [List.map_cons, hexNumber?, hexValue?_toLower, ih]

private theorem hexDigits_of_hexNumber? {cs : List Char} {n : Nat} (h : hexNumber? 0 cs = some n) :
    hexDigits cs.length n = cs.map Char.toLower ∧ n < 16 ^ cs.length := by
  induction cs using List.reverseRecOn generalizing n with
  | nil => cases h; exact ⟨rfl, by decide⟩
  | append_singleton cs c ih =>
    rw [hexNumber?_append] at h
    obtain ⟨m, front, h⟩ := Option.bind_eq_some_iff.mp h
    obtain ⟨d, value, h⟩ := Option.bind_eq_some_iff.mp h
    cases h
    obtain ⟨small, lower⟩ := toLower_of_hexValue? value
    obtain ⟨digits, bound⟩ := ih front
    have whole : (m * 16 + d) / 16 = m ∧ (m * 16 + d) % 16 = d := by omega
    rw [List.length_append, List.length_singleton, hexDigits, whole.1, whole.2, digits,
      List.map_append, List.map_singleton, lower, Nat.pow_succ]
    exact ⟨rfl, by omega⟩

/-- The digits of an identifier, in letters of whichever case. -/
def HasDigits (u : Uuid) (ds : List Char) : Prop := ds.map Char.toLower = u.digits

theorem HasDigits.length_eq {u : Uuid} {ds : List Char} (h : u.HasDigits ds) : ds.length = 32 := by
  have length := congrArg List.length h
  rwa [List.length_map, digits, length_hexDigits] at length

theorem ofDigits?_eq_some_iff {u : Uuid} {ds : List Char} :
    ofDigits? ds = some u ↔ u.HasDigits ds := by
  constructor
  · intro h
    rw [ofDigits?, Option.ite_none_right_eq_some] at h
    obtain ⟨length, h⟩ := h
    obtain ⟨n, number, rfl⟩ := Option.map_eq_some_iff.mp h
    obtain ⟨written, bound⟩ := hexDigits_of_hexNumber? number
    have width : (16 : Nat) ^ 32 = 2 ^ 128 := by decide
    rw [length] at written bound
    rw [HasDigits, digits, BitVec.toNat_ofNat, Nat.mod_eq_of_lt (by omega), written]
  · intro h
    have number := hexNumber?_map_toLower 0 ds
    rw [h] at number
    have length : u.digits.length = 32 := length_hexDigits 32 _
    have parsed := ofDigits?_digits u
    rw [ofDigits?, if_pos length, number] at parsed
    rw [ofDigits?, if_pos h.length_eq, parsed]

private theorem eq_hyphenate_of_unhyphenate? {sizes : List Nat} {cs ds : List Char}
    (h : unhyphenate? sizes cs = some ds) : cs = hyphenate sizes ds := by
  induction sizes, cs using unhyphenate?.induct generalizing ds with
  | case1 cs => cases h; rfl
  | case2 n cs => cases h; rfl
  | case3 n sizes cs more rest hyphen ih =>
    obtain ⟨m, sizes, rfl⟩ := List.exists_cons_of_ne_nil more
    simp only [unhyphenate?, hyphen] at h
    obtain ⟨ds, inner, rfl⟩ := Option.map_eq_some_iff.mp h
    have long : (cs.take n).length = n := by
      have behind := congrArg List.length hyphen
      rw [List.length_drop, List.length_cons] at behind
      exact List.length_take_of_le (by omega)
    simp only [hyphenate]
    rw [List.take_left' long, List.drop_left' long, ← ih inner, ← hyphen, List.take_append_drop]
  | case4 n sizes cs more broken =>
    obtain ⟨m, sizes, rfl⟩ := List.exists_cons_of_ne_nil more
    simp only [unhyphenate?] at h
    cases h

def grouped (ds : List Char) : List Char := hyphenate groupSizes ds

variable {u : Uuid} {cs ds : List Char}

theorem length_grouped (h : ds.length = 32) : (grouped ds).length = 36 := by
  have enough : groupSizes.sum ≤ ds.length := by rw [h]; decide
  rw [grouped, groupSizes, length_hyphenate enough, h]
  rfl

theorem ofHyphenated?_eq_some_iff :
    ofHyphenated? cs = some u ↔ ∃ ds, u.HasDigits ds ∧ cs = grouped ds := by
  constructor
  · intro h
    rw [ofHyphenated?, Option.ite_none_right_eq_some] at h
    obtain ⟨ds, bare, digits⟩ := Option.bind_eq_some_iff.mp h.2
    exact ⟨ds, ofDigits?_eq_some_iff.mp digits, eq_hyphenate_of_unhyphenate? bare⟩
  · rintro ⟨ds, digits, rfl⟩
    have enough : groupSizes.sum ≤ ds.length := by rw [digits.length_eq]; decide
    rw [ofHyphenated?, if_pos (length_grouped digits.length_eq), grouped,
      unhyphenate?_hyphenate enough, Option.bind_some, ofDigits?_eq_some_iff.mpr digits]

/-- The texts that stand for an identifier. -/
inductive Spells (u : Uuid) : List Char → Prop
  | bare {ds : List Char} (digits : u.HasDigits ds) : Spells u ds
  | hyphenated {ds : List Char} (digits : u.HasDigits ds) : Spells u (grouped ds)
  | braced {ds : List Char} (digits : u.HasDigits ds) : Spells u ('{' :: grouped ds ++ ['}'])
  | urn {mark ds : List Char} (marked : mark.map Char.toLower = urnMark)
      (digits : u.HasDigits ds) : Spells u (mark ++ grouped ds)

theorem Spells.write (form : Spelling) (digits : u.HasDigits ds) : Spells u (form.write ds) := by
  cases form with
  | bare => exact .bare digits
  | hyphenated => exact .hyphenated digits
  | braced => exact .braced digits
  | urn => exact .urn (by decide) digits

private theorem spells_of_braces (first : cs.head? = some '{') (last : cs.getLast? = some '}')
    (inner : ofHyphenated? cs.tail.dropLast = some u) : u.Spells cs := by
  obtain ⟨ds, digits, between⟩ := ofHyphenated?_eq_some_iff.mp inner
  obtain ⟨ys, rfl⟩ := List.getLast?_eq_some_iff.mp last
  cases ys with
  | nil => cases first
  | cons y ys =>
    cases first
    rw [List.cons_append, List.tail_cons, List.dropLast_concat] at between
    rw [between]
    exact .braced digits

private theorem spells_of_ofChars? (h : ofChars? cs = some u) : u.Spells cs := by
  rw [ofChars?] at h
  split at h
  case isTrue => exact .bare (ofDigits?_eq_some_iff.mp h)
  case isFalse =>
  split at h
  case isTrue =>
    obtain ⟨ds, digits, rfl⟩ := ofHyphenated?_eq_some_iff.mp h
    exact .hyphenated digits
  case isFalse =>
  split at h
  case isTrue braces => exact spells_of_braces braces.2.1 braces.2.2 h
  case isFalse =>
  rw [Option.ite_none_right_eq_some] at h
  obtain ⟨ds, digits, behind⟩ := ofHyphenated?_eq_some_iff.mp h.2
  have spelled := Spells.urn h.1.2 digits
  rwa [← behind, List.take_append_drop] at spelled

private theorem ofChars?_of_spells (h : u.Spells cs) : ofChars? cs = some u := by
  cases h with
  | bare digits => rw [ofChars?, if_pos digits.length_eq, ofDigits?_eq_some_iff.mpr digits]
  | @hyphenated ds digits =>
    have length := length_grouped digits.length_eq
    rw [ofChars?, if_neg (by omega), if_pos length, ofHyphenated?_eq_some_iff.mpr ⟨ds, digits, rfl⟩]
  | @braced ds digits =>
    have length : ('{' :: grouped ds ++ ['}']).length = 38 := by
      simp [length_grouped digits.length_eq]
    have inner : ('{' :: grouped ds ++ ['}']).tail.dropLast = grouped ds := by
      rw [List.cons_append, List.tail_cons, List.dropLast_concat]
    rw [ofChars?, if_neg (by omega), if_neg (by omega),
      if_pos ⟨length, rfl, List.getLast?_concat⟩, inner,
      ofHyphenated?_eq_some_iff.mpr ⟨ds, digits, rfl⟩]
  | @urn mark ds marked digits =>
    have nine : mark.length = 9 := by
      have length := congrArg List.length marked
      rwa [List.length_map] at length
    have length : (mark ++ grouped ds).length = 45 := by
      rw [List.length_append, nine, length_grouped digits.length_eq]
    rw [ofChars?, if_neg (by omega), if_neg (by omega), if_neg fun h => by omega,
      if_pos ⟨length, by rw [List.take_left' nine, marked]⟩, List.drop_left' nine,
      ofHyphenated?_eq_some_iff.mpr ⟨ds, digits, rfl⟩]

theorem ofChars?_eq_some_iff : ofChars? cs = some u ↔ u.Spells cs :=
  ⟨spells_of_ofChars?, ofChars?_of_spells⟩

theorem parse?_eq_some_iff {s : String} : parse? s = some u ↔ u.Spells s.toList :=
  ofChars?_eq_some_iff

theorem HasDigits.isBlank_of_mem {c : Char} (digits : u.HasDigits ds) (h : c ∈ ds) :
    Text.isBlank c = false := by
  have lower : c.toLower ∈ u.digits := by
    rw [← digits]
    exact List.mem_map_of_mem h
  obtain ⟨d, small, written⟩ := mem_hexDigits lower
  rw [← isBlank_toLower, written, isBlank_hexDigit d small]

theorem HasDigits.isBlank_of_mem_grouped {c : Char} (digits : u.HasDigits ds) (h : c ∈ grouped ds) :
    Text.isBlank c = false := by
  rcases mem_hyphenate h with rfl | h
  · decide
  · exact digits.isBlank_of_mem h

theorem Spells.trimChars_eq (h : u.Spells cs) : Text.trimChars cs = cs := by
  refine Text.trimChars_eq_self fun c hc => ?_
  cases h with
  | bare digits => exact digits.isBlank_of_mem hc
  | hyphenated digits => exact digits.isBlank_of_mem_grouped hc
  | braced digits =>
    simp only [List.cons_append, List.mem_cons, List.mem_append, List.not_mem_nil, or_false] at hc
    rcases hc with rfl | hc | rfl
    · decide
    · exact digits.isBlank_of_mem_grouped hc
    · decide
  | urn marked digits =>
    rcases List.mem_append.mp hc with hc | hc
    · have letters : urnMark.all (fun c => !Text.isBlank c) = true := by decide
      have lower : c.toLower ∈ urnMark := by
        rw [← marked]
        exact List.mem_map_of_mem hc
      rw [← isBlank_toLower]
      simpa using List.all_eq_true.mp letters _ lower
    · exact digits.isBlank_of_mem_grouped hc

/-- The texts that are read as an identifier once they are trimmed: its spellings, with white space
around them. -/
def IsReadOf (u : Uuid) (raw : String) : Prop :=
  ∃ before cs after, Text.Blank before ∧ u.Spells cs ∧ Text.Blank after ∧
    raw.toList = before ++ cs ++ after

theorem parse?_trim_eq_some_iff {raw : String} :
    parse? (Text.trim raw) = some u ↔ u.IsReadOf raw := by
  rw [parse?_eq_some_iff, Text.trim, String.toList_ofList]
  constructor
  · intro spelled
    obtain ⟨before, after, hbefore, hafter, split⟩ := Text.exists_pad raw.toList
    exact ⟨before, _, after, hbefore, spelled, hafter, split⟩
  · rintro ⟨before, cs, after, hbefore, spelled, hafter, split⟩
    rwa [split, Text.trimChars_pad hbefore hafter, spelled.trimChars_eq]

end Uuid

end MeetingInsights
