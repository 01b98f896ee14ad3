import MeetingInsights.Number.Decimal

/-! # Decimal digits of a number

The digits that a number is written with are digits, they spell the number, and none of them is a
zero in front.
-/

namespace MeetingInsights.Number

private theorem isDigit_eq (c : Char) : isDigit c = c.isDigit := by
  simp only [isDigit, Char.isDigit, Char.le_def]

theorem isDigit_of_mem_toDigits {n : Nat} {c : Char} (h : c ∈ Nat.toDigits 10 n) :
    isDigit c = true := by
  rw [isDigit_eq]
  exact Nat.isDigit_of_mem_toDigits (by decide) (by decide) h

theorem digitsValue_eq (acc : Nat) (ds : List Char) :
    digitsValue acc ds = Nat.ofDigitChars 10 ds acc := by
  simp only [digitsValue, Nat.ofDigitChars, Nat.mul_comm]

theorem digitsValue_toDigits (n : Nat) : digitsValue 0 (Nat.toDigits 10 n) = n := by
  rw [digitsValue_eq, Nat.ofDigitChars_ten_toDigits]

theorem span_digits {ds rest : List Char} (digits : ∀ c ∈ ds, isDigit c = true)
    (stop : ∀ c ∈ rest.head?, isDigit c = false) :
    (ds ++ rest).takeWhile isDigit = ds ∧ (ds ++ rest).dropWhile isDigit = rest := by
  rw [List.takeWhile_append_of_pos digits, List.dropWhile_append_of_pos digits]
  cases rest with
  | nil => simp
  | cons c rest => simp [stop c rfl]

theorem toDigits_eq_cons {n : Nat} (h : n ≠ 0) :
    ∃ c cs, Nat.toDigits 10 n = c :: cs ∧ isDigit c = true ∧ c ≠ '0' := by
  induction n using Nat.strongRecOn with
  | ind n ih =>
    rw [Nat.toDigits_eq_if (by decide)]
    split
    case isTrue small =>
      refine ⟨n.digitChar, [], rfl, ?_, ?_⟩
      · exact isDigit_of_mem_toDigits (n := n) (by simp [Nat.toDigits_of_lt_base small])
      · intro zero
        have value := Nat.toNat_digitChar_of_lt_ten small
        rw [zero] at value
        exact h (Nat.add_left_cancel value.symm)
    case isFalse large =>
      obtain ⟨c, cs, digits, digit, nonzero⟩ := ih (n / 10) (by omega) (by omega)
      exact ⟨c, cs ++ [(n % 10).digitChar], by rw [digits, List.cons_append], digit, nonzero⟩

end MeetingInsights.Number
