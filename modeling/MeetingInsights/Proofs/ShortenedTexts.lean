import MeetingInsights.Text.Ellipsis

/-! # Shortened texts

A text that is too long for a limit is cut and ends in three dots, which are never cut themselves.
So a limit that has room for the dots is kept, and all of it is used; a smaller one is exceeded by
every text that is too long for it.
-/

namespace MeetingInsights.Text

variable {text : String} {limit : Nat}

theorem truncateWithEllipsis_of_lt (h : limit < text.length) :
    truncateWithEllipsis text limit = String.ofList (text.toList.take (limit - 3)) ++ "..." :=
  if_neg (Nat.not_le_of_lt h)

/-- A text stands for a longer or equal one: it is all of it where that fits, and otherwise a
beginning of it with dots behind. -/
structure Abbreviates (limit : Nat) (text short : String) : Prop where
  whole : text.length ≤ limit → short = text
  cut : limit < text.length → ∃ kept, kept <+: text.toList ∧ short = String.ofList kept ++ "..."

private theorem abbreviates_truncateWithEllipsis (text : String) (limit : Nat) :
    Abbreviates limit text (truncateWithEllipsis text limit) where
  whole := truncateWithEllipsis_of_length_le
  cut h := ⟨_, List.take_prefix _ _, truncateWithEllipsis_of_lt h⟩

theorem length_truncateWithEllipsis (text : String) (limit : Nat) :
    (truncateWithEllipsis text limit).length =
      if text.length ≤ limit then text.length else max limit 3 := by
  split <;> rename_i h
  · rw [truncateWithEllipsis_of_length_le h]
  · have dots : "...".length = 3 := rfl
    rw [truncateWithEllipsis_of_lt (Nat.lt_of_not_le h), String.length_append,
      String.length_ofList, List.length_take, String.length_toList]
    omega

theorem length_truncateWithEllipsis_le_iff :
    (truncateWithEllipsis text limit).length ≤ limit ↔ text.length ≤ limit ∨ 3 ≤ limit := by
  rw [length_truncateWithEllipsis]
  split <;> omega

theorem length_truncateWithEllipsis_le (h : 3 ≤ limit) :
    (truncateWithEllipsis text limit).length ≤ limit :=
  length_truncateWithEllipsis_le_iff.mpr (.inr h)

/-- The message of a failure has room for the dots, so it is kept within its limit. -/
theorem length_truncateFailureMessage_le (message : String) :
    (truncateFailureMessage message).length ≤ failureMessageLimit :=
  length_truncateWithEllipsis_le (by decide)

/-- A shortened text is the text itself or a beginning of it with dots. What is cut uses its limit
to the full, and the limit is kept just if nothing is cut or it has room for the dots. -/
theorem keepsLimit_iff_roomForDots (text : String) (limit : Nat) :
    Abbreviates limit text (truncateWithEllipsis text limit) ∧
      (truncateWithEllipsis text limit).length =
        (if text.length ≤ limit then text.length else max limit 3) ∧
      ((truncateWithEllipsis text limit).length ≤ limit ↔ text.length ≤ limit ∨ 3 ≤ limit) :=
  ⟨abbreviates_truncateWithEllipsis text limit, length_truncateWithEllipsis text limit,
    length_truncateWithEllipsis_le_iff⟩

/-- Nothing fits into no room, and the dots are written all the same. -/
theorem not_all_keep_limit :
    ¬ ∀ (text : String) (limit : Nat), (truncateWithEllipsis text limit).length ≤ limit := by
  intro keep
  have exceeds := keep "abc" 0
  have dots : truncateWithEllipsis "abc" 0 = "..." := by decide
  rw [dots] at exceeds
  revert exceeds
  decide

end MeetingInsights.Text
