import MeetingInsights.Theme.Name

/-! # Normalized names

Lowercase text is its own lowercase form: no character of it has another one, and the two whose form
depends on more than themselves do not stand in it. So a normalized theme name has no space and is
its own normalized form.
-/

namespace MeetingInsights

namespace Text

namespace CaseSegment

/-- No code point of `s` is lowered to one of `t`: their ranges are apart, or one has odd code
points where the other has even ones. -/
def misses (s t : CaseSegment) : Bool :=
  (s.apply s.last).blt t.first || t.last.blt (s.apply s.first) ||
    (t.stride == 2 && (s.stride == 2 || s.first == s.last) &&
      0 ≤ s.first + s.shift && (s.apply s.first + t.first) % 2 == 1)

private theorem contains_apply_of_misses {s t : CaseSegment} (h : s.misses t = true) {n : Nat}
    (hn : s.contains n = true) : t.contains (s.apply n) = false := by
  simp only [contains, Bool.and_eq_true, decide_eq_true_eq, beq_iff_eq] at hn
  obtain ⟨⟨first, last⟩, stride⟩ := hn
  simp only [contains, Bool.and_eq_false_iff, decide_eq_false_iff_not, beq_eq_false_iff_ne]
  simp only [misses, apply, Bool.or_eq_true, Bool.and_eq_true, Nat.blt_eq, beq_iff_eq,
    decide_eq_true_eq] at h ⊢
  rcases h with (below | above) | ⟨⟨⟨two, step⟩, start⟩, parity⟩
  · omega
  · omega
  · rw [two]
    rcases step with step | single
    · rw [step] at stride
      omega
    · omega

end CaseSegment

/-- The dotted capital I, which is lowered to two characters, and the space. -/
def unloweredSegments : List CaseSegment := [⟨0x130, 0x130, 1, 0⟩, ⟨0x20, 0x20, 1, 0⟩]

private theorem misses_of_mem {s t : CaseSegment} (hs : s ∈ lowercaseSegments)
    (ht : t ∈ unloweredSegments ++ lowercaseSegments) : s.misses t = true := by
  have table : (lowercaseSegments.all fun s =>
      (unloweredSegments ++ lowercaseSegments).all s.misses) = true := by decide +kernel
  exact List.all_eq_true.mp (List.all_eq_true.mp table s hs) t ht

private theorem first_pos_of_mem {t : CaseSegment}
    (ht : t ∈ unloweredSegments ++ lowercaseSegments) : 0 < t.first := by
  have table : ∀ t ∈ unloweredSegments ++ lowercaseSegments, 0 < t.first := by decide +kernel
  exact table t ht

theorem lowerChar_cases (c : Char) :
    lowerChar c = c ∨ ∃ s ∈ lowercaseSegments, s.contains c.toNat = true ∧
      lowerChar c = Char.ofNat (s.apply c.toNat) := by
  unfold lowerChar
  split
  · rename_i s found
    exact .inr ⟨s, List.mem_of_find?_eq_some found, by simpa using List.find?_some found, rfl⟩
  · exact .inl rfl

/-- A character that is lowered to another one is lowered to none that is lowered further. -/
theorem contains_lowerChar {c : Char} (lowered : lowerChar c ≠ c) {t : CaseSegment}
    (ht : t ∈ unloweredSegments ++ lowercaseSegments) :
    t.contains (lowerChar c).toNat = false := by
  obtain ⟨s, hs, hc, eq⟩ := (lowerChar_cases c).resolve_left lowered
  rw [eq, Char.ofNat]
  by_cases valid : (s.apply c.toNat).isValidChar
  · rw [dif_pos valid]
    exact CaseSegment.contains_apply_of_misses (misses_of_mem hs ht) hc
  · have positive := first_pos_of_mem ht
    rw [dif_neg valid]
    change t.contains 0 = false
    simp only [CaseSegment.contains, Bool.and_eq_false_iff, decide_eq_false_iff_not]
    omega

theorem lowerChar_lowerChar (c : Char) : lowerChar (lowerChar c) = lowerChar c := by
  by_cases lowered : lowerChar c = c
  · rw [lowered, lowered]
  · rcases lowerChar_cases (lowerChar c) with same | ⟨t, ht, contained, _⟩
    · exact same
    · rw [contains_lowerChar lowered (List.mem_append_right _ ht)] at contained
      cases contained

theorem lowerChar_ne {c d : Char} (hd : ⟨d.toNat, d.toNat, 1, 0⟩ ∈ unloweredSegments)
    (hne : c ≠ d) : lowerChar c ≠ d := by
  intro eq
  by_cases lowered : lowerChar c = c
  · exact hne (lowered.symm.trans eq)
  · have missed := contains_lowerChar lowered (List.mem_append_left _ hd)
    rw [eq] at missed
    simp [CaseSegment.contains] at missed

/-- A character that stands as it is in every lowercase text. -/
structure IsLower (c : Char) : Prop where
  notSigma : c ≠ 'Σ'
  notDottedI : c ≠ 'İ'
  lowered : lowerChar c = c

instance (c : Char) : Decidable (IsLower c) :=
  decidable_of_iff (c ≠ 'Σ' ∧ c ≠ 'İ' ∧ lowerChar c = c)
    ⟨fun ⟨s, i, l⟩ => ⟨s, i, l⟩, fun h => ⟨h.notSigma, h.notDottedI, h.lowered⟩⟩

private theorem isLower_lowerChar {c : Char} (notDottedI : c ≠ 'İ') : IsLower (lowerChar c) where
  notSigma eq := by
    have again := lowerChar_lowerChar c
    rw [eq] at again
    exact absurd again (by decide +kernel)
  notDottedI := lowerChar_ne (by decide) notDottedI
  lowered := lowerChar_lowerChar c

private theorem isLower_of_mem_lowerAt {before after : List Char} {c d : Char}
    (h : d ∈ lowerAt before c after) : IsLower d := by
  have marks : IsLower 'ς' ∧ IsLower 'σ' ∧ IsLower 'i' ∧ IsLower '\u0307' := by decide +kernel
  obtain ⟨final, sigma, i, dot⟩ := marks
  unfold lowerAt at h
  split at h
  · split at h <;> obtain rfl := List.mem_singleton.mp h
    · exact final
    · exact sigma
  · split at h
    · rcases List.mem_cons.mp h with rfl | h
      · exact i
      · obtain rfl := List.mem_singleton.mp h
        exact dot
    · rename_i notDottedI
      obtain rfl := List.mem_singleton.mp h
      exact isLower_lowerChar notDottedI

private theorem isLower_of_mem_lowerFrom {before cs : List Char} {d : Char}
    (h : d ∈ lowerFrom before cs) : IsLower d := by
  induction cs generalizing before with
  | nil => cases h
  | cons c cs ih =>
    rcases List.mem_append.mp h with h | h
    · exact isLower_of_mem_lowerAt h
    · exact ih h

private theorem lowerFrom_of_isLower {cs : List Char} (h : ∀ c ∈ cs, IsLower c)
    (before : List Char) : lowerFrom before cs = cs := by
  induction cs generalizing before with
  | nil => rfl
  | cons c cs ih =>
    obtain ⟨⟨notSigma, notDottedI, lowered⟩, rest⟩ := List.forall_mem_cons.mp h
    rw [lowerFrom, ih rest, lowerAt, if_neg notSigma, if_neg notDottedI, lowered]
    rfl

private theorem lowerChars_lowerChars (cs : List Char) :
    lowerChars (lowerChars cs) = lowerChars cs :=
  lowerFrom_of_isLower (fun _ => isLower_of_mem_lowerFrom) []

private theorem space_notMem_lowerAt {before after : List Char} {c : Char} (h : c ≠ ' ') :
    ' ' ∉ lowerAt before c after := by
  unfold lowerAt
  split
  · split <;> decide
  · split
    · decide
    · exact fun mem => lowerChar_ne (by decide) h (List.mem_singleton.mp mem).symm

private theorem space_notMem_lowerFrom {before cs : List Char} (h : ' ' ∉ cs) :
    ' ' ∉ lowerFrom before cs := by
  induction cs generalizing before with
  | nil => exact h
  | cons c cs ih =>
    obtain ⟨first, rest⟩ := not_or.mp (mt List.mem_cons.mpr h)
    rw [lowerFrom, List.mem_append, not_or]
    exact ⟨space_notMem_lowerAt fun eq => first eq.symm, ih rest⟩

private theorem lowerFrom_ne_nil {before cs : List Char} (h : cs ≠ []) :
    lowerFrom before cs ≠ [] := by
  cases cs with
  | nil => exact (h rfl).elim
  | cons c cs =>
    have first : lowerAt before c cs ≠ [] := by
      unfold lowerAt
      split
      · split <;> exact List.cons_ne_nil _ _
      · split <;> exact List.cons_ne_nil _ _
    exact fun nil => first (List.append_eq_nil_iff.mp nil).1

end Text

namespace Theme

theorem space_notMem_normalizeChars (cs : List Char) : ' ' ∉ normalizeChars cs := by
  refine Text.space_notMem_lowerFrom fun mem => ?_
  obtain ⟨c, _, hc⟩ := List.mem_map.mp mem
  unfold hyphenate at hc
  split at hc
  · cases hc
  · contradiction

private theorem normalizeChars_normalizeChars (cs : List Char) :
    normalizeChars (normalizeChars cs) = normalizeChars cs := by
  have spaceless : (normalizeChars cs).map hyphenate = normalizeChars cs := by
    refine (List.map_congr_left fun c hc => ?_).trans (List.map_id _)
    refine if_neg fun space => space_notMem_normalizeChars cs ?_
    rwa [← space]
  calc normalizeChars (normalizeChars cs)
    _ = Text.lowerChars (normalizeChars cs) := congrArg Text.lowerChars spaceless
    _ = normalizeChars cs := Text.lowerChars_lowerChars _

theorem normalizeName_eq_none_iff {raw : String} : normalizeName raw = none ↔ raw = "" := by
  rw [normalizeName, ite_eq_left_iff]
  simp

theorem normalizeName_eq_some_iff {raw name : String} :
    normalizeName raw = some name ↔ raw ≠ "" ∧ name.toList = normalizeChars raw.toList := by
  unfold normalizeName
  split <;> rename_i h
  · simp [String.isEmpty_iff.mp h]
  · have nonempty : raw ≠ "" := fun empty => h (by rw [empty]; rfl)
    simp [nonempty, ← String.toList_inj, eq_comm]

variable {raw name : String}

theorem ne_empty_of_normalizeName (h : normalizeName raw = some name) : name ≠ "" := by
  obtain ⟨nonempty, same⟩ := normalizeName_eq_some_iff.mp h
  rintro rfl
  have chars : raw.toList.map hyphenate ≠ [] := fun nil =>
    nonempty (String.toList_eq_nil_iff.mp (List.map_eq_nil_iff.mp nil))
  exact Text.lowerFrom_ne_nil chars same.symm

theorem space_notMem_of_normalizeName (h : normalizeName raw = some name) : ' ' ∉ name.toList := by
  rw [(normalizeName_eq_some_iff.mp h).2]
  exact space_notMem_normalizeChars _

/-- A normalized name is its own normalized form. -/
theorem isNormal_of_normalizeName (h : normalizeName raw = some name) : IsNormal name := by
  refine normalizeName_eq_some_iff.mpr ⟨ne_empty_of_normalizeName h, ?_⟩
  rw [(normalizeName_eq_some_iff.mp h).2, normalizeChars_normalizeChars]

end Theme

end MeetingInsights
