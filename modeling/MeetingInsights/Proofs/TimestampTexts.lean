import Mathlib.Algebra.GroupWithZero.Nat
import MeetingInsights.Proofs.DecimalDigits
import MeetingInsights.Timestamp

/-! # Texts of points in time

The text that is written for a point in time is read back as it. Every field ends at a character that
is no digit, so that a field is read alone, whatever its width.
-/

namespace MeetingInsights.Timestamp

open Number (digitsValue)

/-- Whether no digit continues a field. -/
def EndsField (cs : List Char) : Prop := ∀ c ∈ cs.head?, isDigit c = false

theorem EndsField.of_cons {c : Char} {cs : List Char} (h : isDigit c = false) :
    EndsField (c :: cs) := by
  simpa [EndsField] using h

theorem isDigit_of_mem_padded {width n : Nat} {c : Char} (h : c ∈ padded width n) :
    isDigit c = true := by
  rcases List.mem_append.mp h with h | h
  · rw [List.eq_of_mem_replicate h]
    rfl
  · exact Number.isDigit_of_mem_toDigits h

private theorem number_padded (width n : Nat) : number (padded width n) = n := by
  have zeros (k : Nat) : digitsValue 0 (List.replicate k '0') = 0 := by
    rw [Number.digitsValue_eq, Nat.ofDigitChars_replicate_zero, Nat.mul_zero]
  have split (ds : List Char) : number (List.replicate (width - ds.length) '0' ++ ds) =
      digitsValue (digitsValue 0 (List.replicate (width - ds.length) '0')) ds := List.foldl_append
  rw [padded, split, zeros, Number.digitsValue_toDigits]

theorem padded_ne_nil (width n : Nat) : padded width n ≠ [] := by
  simp [padded, Nat.toDigits_ne_nil]

theorem length_padded {width n : Nat} (positive : 0 < width) (fits : n < 10 ^ width) :
    (padded width n).length = width := by
  have digits : (Nat.toDigits 10 n).length ≤ width :=
    (Nat.length_toDigits_le_iff (by decide) positive).mpr fits
  simp only [padded, List.length_append, List.length_replicate]
  omega

theorem digits?_padded {limit width n : Nat} {rest : List Char}
    (room : (padded width n).length ≤ limit) (ends : EndsField rest) :
    digits? limit (padded width n ++ rest) = some (n, rest) := by
  have stop : ∀ c ∈ (rest.take (limit - (padded width n).length)).head?, isDigit c = false := by
    intro c first
    rw [List.head?_take] at first
    split at first
    · cases first
    · exact ends c first
  have taken : ((padded width n ++ rest).take limit).takeWhile isDigit = padded width n := by
    rw [List.take_append, List.take_of_length_le room]
    exact (Number.span_digits (fun c => isDigit_of_mem_padded) stop).1
  simp [digits?, taken, padded_ne_nil, number_padded]

theorem isBlank_of_isDigit {c : Char} (h : isDigit c = true) : Text.isBlank c = false := by
  simp only [isDigit, Bool.and_eq_true, decide_eq_true_eq, Char.le_def] at h
  have bounds : 48 ≤ c.toNat ∧ c.toNat ≤ 57 := h
  simp only [Text.isBlank, Bool.or_eq_false_iff, Bool.and_eq_false_iff, decide_eq_false_iff_not,
    beq_eq_false_iff_ne]
  omega

theorem padded_eq_cons (width n : Nat) :
    ∃ c cs, padded width n = c :: cs ∧ isDigit c = true := by
  obtain ⟨c, cs, digits⟩ := List.exists_cons_of_ne_nil (padded_ne_nil width n)
  have first : c ∈ padded width n := digits ▸ List.mem_cons_self
  exact ⟨c, cs, digits, isDigit_of_mem_padded first⟩

private theorem trimLeft_padded (width n : Nat) (rest : List Char) :
    Text.trimLeft (padded width n ++ rest) = padded width n ++ rest := by
  obtain ⟨c, cs, digits, digit⟩ := padded_eq_cons width n
  rw [digits, List.cons_append, Text.trimLeft_cons _ (isBlank_of_isDigit digit)]

theorem mark?_cons {c : Char} (rest : List Char) (h : Text.isBlank c = false) :
    mark? c (c :: rest) = some rest := by
  simp [mark?, Text.trimLeft_cons _ h]

theorem field?_padded {n : Nat} {rest : List Char} (fits : n < 100) (ends : EndsField rest) :
    field? 2 (padded 2 n ++ rest) = some (n, rest) := by
  rw [field?, trimLeft_padded, digits?_padded (Nat.le_of_eq (length_padded (by decide) fits)) ends]

private theorem year?_yearText (year : Int) {rest : List Char} (ends : EndsField rest) :
    year? (yearText year ++ rest) = some (year, rest) := by
  have signed (n : Nat) : digits? (padded 4 n ++ rest).length (padded 4 n ++ rest) = some (n, rest) :=
    digits?_padded (by simp) ends
  rw [yearText]
  split
  case isTrue short =>
    obtain ⟨c, cs, digits, digit⟩ := padded_eq_cons 4 year.toNat
    have read : digits? 4 (padded 4 year.toNat ++ rest) = some (year.toNat, rest) :=
      digits?_padded (Nat.le_of_eq (length_padded (by decide) (by omega))) ends
    rw [digits, List.cons_append] at read ⊢
    rw [year?, Text.trimLeft_cons _ (isBlank_of_isDigit digit)]
    split
    case h_3 =>
      have size : (year.toNat : Int) = year := by omega
      simp only [read, Option.map_some, size]
    all_goals
      rename_i h
      rw [(List.cons.inj h).1] at digit
      exact absurd digit (by decide)
  case isFalse long =>
    split
    case isTrue negative =>
      have size : -(year.natAbs : Int) = year := by omega
      have sign : Text.isBlank '-' = false := by decide
      simp only [year?, List.cons_append, Text.trimLeft_cons _ sign, signed, Option.map_some, size]
    case isFalse nonnegative =>
      have size : (year.toNat : Int) = year := by omega
      have sign : Text.isBlank '+' = false := by decide
      simp only [year?, List.cons_append, Text.trimLeft_cons _ sign, signed, Option.map_some, size]

private theorem fraction?_fractionText {nano : Nat} (small : nano < 1000000000) :
    fraction? (fractionText nano ++ ['Z']) = some (nano, ['Z']) := by
  have read {width n : Nat} (positive : 0 < width) (narrow : width ≤ 9) (fits : n < 10 ^ width) :
      fraction? ('.' :: padded width n ++ ['Z']) = some (n * 10 ^ (9 - width), ['Z']) := by
    have length := length_padded positive fits
    have taken : digits? 9 (padded width n ++ ['Z']) = some (n, ['Z']) :=
      digits?_padded (by omega) (.of_cons (by decide))
    simp [fraction?, taken, length]
    decide
  rw [fractionText]
  split
  case isTrue whole => rw [whole]; rfl
  case isFalse =>
    split
    case isTrue millis =>
      rw [read (by decide) (by decide) (by omega)]
      simp
      omega
    case isFalse =>
      split
      case isTrue micros =>
        rw [read (by decide) (by decide) (by omega)]
        simp
        omega
      case isFalse => rw [read (by decide) (by decide) (by omega)]; simp

private theorem endsField_fractionText (nano : Nat) : EndsField (fractionText nano ++ ['Z']) := by
  rw [fractionText]
  split
  · exact .of_cons (by decide)
  · repeat' split
    all_goals exact .of_cons (by decide)

private theorem daysInMonth_le (year : Int) (month : Nat) : daysInMonth year month ≤ 31 := by
  unfold daysInMonth
  repeat' split
  all_goals decide

private theorem fromOffset_zero {t : Timestamp} (valid : t.Valid) : t.fromOffset 0 = t := by
  have hour := valid.hour
  have minute := valid.minute
  simp only [fromOffset]
  rw [if_neg (by omega), if_neg (by omega)]
  have hours : ((t.hour * 60 + t.minute : Int) - 0).toNat / 60 = t.hour := by omega
  have minutes : ((t.hour * 60 + t.minute : Int) - 0).toNat % 60 = t.minute := by omega
  rw [hours, minutes]

/-- A leap second is written as the second 60 and is read as nanoseconds past the second 59. -/
theorem second_eq {t : Timestamp} (valid : t.Valid) :
    (if t.second + t.nano / 1000000000 = 60 then
      ⟨t.year, t.month, t.day, t.hour, t.minute, 59, t.nano % 1000000000 + 1000000000⟩
    else ⟨t.year, t.month, t.day, t.hour, t.minute, t.second + t.nano / 1000000000,
      t.nano % 1000000000⟩ : Timestamp) = t := by
  have bound := valid.second
  by_cases plain : t.nano < 1000000000
  · rw [Nat.div_eq_of_lt plain, Nat.mod_eq_of_lt plain, if_neg (by omega)]
    rfl
  · obtain ⟨last, leap⟩ := valid.nano.resolve_left plain
    have one : t.nano / 1000000000 = 1 := by omega
    have past : t.nano % 1000000000 + 1000000000 = t.nano := by omega
    rw [one, if_pos (by omega), past, ← last]

private theorem bind_of_eq_some {α β : Type} {x : Option α} {f : α → Option β} {a : α} {b : β}
    (read : x = some a) (rest : f a = some b) : x.bind f = some b := by
  rw [read, Option.bind_some, rest]

private theorem guard_of_holds {p : Prop} [Decidable p] (h : p) : guard p = some () := if_pos h

private theorem holds_of_guard {p : Prop} [Decidable p] {u : Unit} (h : guard p = some u) : p :=
  (Option.ite_none_right_eq_some.mp h).1

theorem parse?_toText {t : Timestamp} (valid : t.Valid) : parse? t.toText = some t := by
  have month : t.month < 100 := by have := valid.month; omega
  have day : t.day < 100 := by
    have := valid.day.2
    have := daysInMonth_le t.year t.month
    omega
  have hour : t.hour < 100 := by have := valid.hour; omega
  have minute : t.minute < 100 := by have := valid.minute; omega
  have second : t.second + t.nano / 1000000000 < 100 := by
    have := valid.second
    have := valid.nano
    omega
  have nano : t.nano % 1000000000 < 1000000000 := Nat.mod_lt _ (by decide)
  have clock := second_eq valid
  rw [parse?, toText, String.toList_ofList, toChars]
  simp only [List.append_assoc, List.cons_append]
  unfold ofChars?
  refine bind_of_eq_some (year?_yearText t.year (.of_cons (by decide))) ?_
  refine bind_of_eq_some (mark?_cons _ (by decide)) ?_
  refine bind_of_eq_some (field?_padded month (.of_cons (by decide))) ?_
  refine bind_of_eq_some (mark?_cons _ (by decide)) ?_
  refine bind_of_eq_some (field?_padded day (.of_cons (by decide))) ?_
  refine bind_of_eq_some (rfl : separator? ('T' :: _) = some _) ?_
  refine bind_of_eq_some (field?_padded hour (.of_cons (by decide))) ?_
  refine bind_of_eq_some (mark?_cons _ (by decide)) ?_
  refine bind_of_eq_some (field?_padded minute (.of_cons (by decide))) ?_
  refine bind_of_eq_some (mark?_cons _ (by decide)) ?_
  refine bind_of_eq_some (field?_padded second (endsField_fractionText _)) ?_
  refine bind_of_eq_some (fraction?_fractionText nano) ?_
  refine bind_of_eq_some (rfl : offset? ['Z'] = some (0, [])) ?_
  rw [clock]
  dsimp only
  rw [fromOffset_zero valid]
  refine bind_of_eq_some (guard_of_holds rfl) ?_
  refine bind_of_eq_some (guard_of_holds ⟨valid, by decide⟩) ?_
  exact bind_of_eq_some (guard_of_holds valid) rfl

/-- Only points in time that exist are read. -/
theorem valid_of_parse? {s : String} {t : Timestamp} (h : parse? s = some t) : t.Valid := by
  rw [parse?] at h
  unfold ofChars? at h
  obtain ⟨⟨year, cs⟩, -, h⟩ := Option.bind_eq_some_iff.mp h
  obtain ⟨cs, -, h⟩ := Option.bind_eq_some_iff.mp h
  obtain ⟨⟨month, cs⟩, -, h⟩ := Option.bind_eq_some_iff.mp h
  obtain ⟨cs, -, h⟩ := Option.bind_eq_some_iff.mp h
  obtain ⟨⟨day, cs⟩, -, h⟩ := Option.bind_eq_some_iff.mp h
  obtain ⟨cs, -, h⟩ := Option.bind_eq_some_iff.mp h
  obtain ⟨⟨hour, cs⟩, -, h⟩ := Option.bind_eq_some_iff.mp h
  obtain ⟨cs, -, h⟩ := Option.bind_eq_some_iff.mp h
  obtain ⟨⟨minute, cs⟩, -, h⟩ := Option.bind_eq_some_iff.mp h
  obtain ⟨cs, -, h⟩ := Option.bind_eq_some_iff.mp h
  obtain ⟨⟨second, cs⟩, -, h⟩ := Option.bind_eq_some_iff.mp h
  obtain ⟨⟨nano, cs⟩, -, h⟩ := Option.bind_eq_some_iff.mp h
  obtain ⟨⟨offset, cs⟩, -, h⟩ := Option.bind_eq_some_iff.mp h
  obtain ⟨_, -, h⟩ := Option.bind_eq_some_iff.mp h
  obtain ⟨_, -, h⟩ := Option.bind_eq_some_iff.mp h
  obtain ⟨_, checked, h⟩ := Option.bind_eq_some_iff.mp h
  exact Option.some.inj h ▸ holds_of_guard checked

end MeetingInsights.Timestamp
