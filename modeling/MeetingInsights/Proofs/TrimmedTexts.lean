import MeetingInsights.Text.Blank

/-! # Trimming

What trimming takes off a text is white space at its ends, as much of it as there is, and nothing
else.
-/

namespace MeetingInsights.Text

/-- White space alone. -/
def Blank (cs : List Char) : Prop := ∀ c ∈ cs, isBlank c = true

instance (cs : List Char) : Decidable (Blank cs) :=
  decidable_of_iff (cs.all isBlank = true) List.all_eq_true

/-- Neither the first nor the last character is white space. -/
structure Trimmed (cs : List Char) : Prop where
  first : ∀ c ∈ cs.head?, isBlank c = false
  last : ∀ c ∈ cs.getLast?, isBlank c = false

namespace Blank

theorem nil : Blank [] := fun _ h => nomatch h

theorem append {u v : List Char} (hu : Blank u) (hv : Blank v) : Blank (u ++ v) :=
  List.forall_mem_append.mpr ⟨hu, hv⟩

theorem reverse {u : List Char} (h : Blank u) : Blank u.reverse :=
  fun c hc => h c (List.mem_reverse.mp hc)

private theorem trimLeft_append {u : List Char} (h : Blank u) (cs : List Char) :
    trimLeft (u ++ cs) = trimLeft cs :=
  List.dropWhile_append_of_pos h

end Blank

theorem blank_iff_trimChars {cs : List Char} : Blank cs ↔ trimChars cs = [] :=
  trimChars_eq_nil_iff.symm

private theorem trimChars_append_of_blank {v : List Char} (h : Blank v) (cs : List Char) :
    trimChars (cs ++ v) = trimChars cs := by
  by_cases blank : Blank cs
  · rw [blank_iff_trimChars.mp (blank.append h), blank_iff_trimChars.mp blank]
  · have some : (cs.dropWhile isBlank).isEmpty = false := by
      rw [Bool.eq_false_iff, ne_eq, List.isEmpty_iff]
      exact fun none => blank (trimLeft_eq_nil_iff.mp none)
    have front : trimLeft (cs ++ v) = trimLeft cs ++ v := by
      rw [trimLeft, List.dropWhile_append, some, if_neg Bool.false_ne_true, trimLeft]
    rw [trimChars, front, List.reverse_append, h.reverse.trimLeft_append, trimChars]

/-- White space around a text makes no difference to what is left of it. -/
theorem trimChars_pad {u v : List Char} (hu : Blank u) (hv : Blank v) (cs : List Char) :
    trimChars (u ++ cs ++ v) = trimChars cs := by
  rw [trimChars_append_of_blank hv, trimChars, hu.trimLeft_append, trimChars]

theorem Trimmed.trimLeft_eq {cs : List Char} (h : Trimmed cs) : trimLeft cs = cs := by
  cases cs with
  | nil => rfl
  | cons c cs => exact trimLeft_cons cs (h.first c rfl)

theorem Trimmed.reverse {cs : List Char} (h : Trimmed cs) : Trimmed cs.reverse where
  first := by simpa using h.last
  last := by simpa using h.first

theorem Trimmed.trimChars_eq {cs : List Char} (h : Trimmed cs) : trimChars cs = cs := by
  rw [trimChars, h.trimLeft_eq, h.reverse.trimLeft_eq, List.reverse_reverse]

theorem exists_trimLeft (cs : List Char) : ∃ u, Blank u ∧ cs = u ++ trimLeft cs :=
  ⟨cs.takeWhile isBlank, List.all_eq_true.mp List.all_takeWhile,
    List.takeWhile_append_dropWhile.symm⟩

theorem isBlank_of_head_trimLeft {c : Char} {cs : List Char} (h : c ∈ (trimLeft cs).head?) :
    isBlank c = false := by
  have first := List.head?_dropWhile_not isBlank cs
  rw [← trimLeft, Option.mem_def.mp h] at first
  simpa using first

theorem exists_trimChars (cs : List Char) : ∃ v, Blank v ∧ trimLeft cs = trimChars cs ++ v := by
  obtain ⟨v, hv, back⟩ := exists_trimLeft (trimLeft cs).reverse
  refine ⟨v.reverse, hv.reverse, ?_⟩
  rw [trimChars, ← List.reverse_append, ← back, List.reverse_reverse]

/-- A text is white space, what trimming leaves, and white space. -/
theorem exists_pad (cs : List Char) : ∃ u v, Blank u ∧ Blank v ∧ cs = u ++ trimChars cs ++ v := by
  obtain ⟨u, hu, front⟩ := exists_trimLeft cs
  obtain ⟨v, hv, back⟩ := exists_trimChars cs
  exact ⟨u, v, hu, hv, by rw [List.append_assoc, ← back, ← front]⟩

theorem trimmed_trimChars (cs : List Char) : Trimmed (trimChars cs) where
  first := by
    intro c h
    obtain ⟨v, -, back⟩ := exists_trimChars cs
    have front : c ∈ (trimLeft cs).head? := by
      rw [back, List.head?_append, Option.mem_def.mp h]
      rfl
    exact isBlank_of_head_trimLeft front
  last := by
    rw [trimChars, List.getLast?_reverse]
    exact fun c => isBlank_of_head_trimLeft

end MeetingInsights.Text
