import Mathlib.Algebra.GroupWithZero.Nat
import MeetingInsights.Text.Blank
import MeetingInsights.Uuid

/-! # Texts of identifiers

The text that is written for an identifier is read back as the identifier, also with white space
around it.
-/

namespace MeetingInsights

namespace Text

theorem trimLeft_eq_self {cs : List Char} (h : ∀ c ∈ cs, isBlank c = false) : trimLeft cs = cs := by
  cases cs with
  | nil => rfl
  | cons c cs => rw [trimLeft_cons cs (h c List.mem_cons_self)]

theorem trimChars_eq_self {cs : List Char} (h : ∀ c ∈ cs, isBlank c = false) :
    trimChars cs = cs := by
  have backwards : ∀ c ∈ cs.reverse, isBlank c = false := fun c hc => h c (List.mem_reverse.mp hc)
  rw [trimChars, trimLeft_eq_self h, trimLeft_eq_self backwards, List.reverse_reverse]

end Text

namespace Uuid

private theorem hexValue?_hexDigit : ∀ d < 16, hexValue? (hexDigit d) = some d := by decide

theorem isBlank_hexDigit : ∀ d < 16, Text.isBlank (hexDigit d) = false := by decide

theorem length_hexDigits (width n : Nat) : (hexDigits width n).length = width := by
  induction width generalizing n with
  | zero => rfl
  | succ width ih => rw [hexDigits, List.length_append, ih, List.length_singleton]

theorem mem_hexDigits {width n : Nat} {c : Char} (h : c ∈ hexDigits width n) :
    ∃ d < 16, c = hexDigit d := by
  induction width generalizing n with
  | zero => cases h
  | succ width ih =>
    rcases List.mem_append.mp h with h | h
    · exact ih h
    · exact ⟨n % 16, Nat.mod_lt n (by decide), List.mem_singleton.mp h⟩

theorem hexNumber?_append (acc : Nat) (cs ds : List Char) :
    hexNumber? acc (cs ++ ds) = (hexNumber? acc cs).bind fun n => hexNumber? n ds := by
  induction cs generalizing acc with
  | nil => rfl
  | cons c cs ih =>
    simp only [List.cons_append, hexNumber?]
    cases hexValue? c with
    | none => rfl
    | some d => exact ih (acc * 16 + d)

private theorem hexNumber?_hexDigits (acc width n : Nat) :
    hexNumber? acc (hexDigits width n) = some (acc * 16 ^ width + n % 16 ^ width) := by
  induction width generalizing n with
  | zero => simp [hexDigits, hexNumber?, Nat.mod_one]
  | succ width ih =>
    have last : hexValue? (hexDigit (n % 16)) = some (n % 16) :=
      hexValue?_hexDigit _ (Nat.mod_lt n (by decide))
    rw [hexDigits, hexNumber?_append, ih, Option.bind_some]
    simp only [hexNumber?, last, Option.bind_eq_bind, Option.bind_some, Option.some.injEq]
    rw [Nat.pow_succ, Nat.mul_comm (16 ^ width) 16, Nat.mod_mul, Nat.mul_left_comm]
    omega

theorem ofDigits?_digits (u : Uuid) : ofDigits? u.digits = some u := by
  have width : (16 : Nat) ^ 32 = 2 ^ 128 := by decide
  have whole : hexNumber? 0 u.digits = some u.bits.toNat := by
    rw [digits, hexNumber?_hexDigits, Nat.zero_mul, Nat.zero_add, width,
      Nat.mod_eq_of_lt u.bits.isLt]
  have length : u.digits.length = 32 := length_hexDigits 32 _
  rw [ofDigits?, if_pos length, whole, Option.map_some, BitVec.ofNat_toNat, BitVec.setWidth_eq]

theorem unhyphenate?_hyphenate {sizes : List Nat} {cs : List Char} (enough : sizes.sum ≤ cs.length) :
    unhyphenate? sizes (hyphenate sizes cs) = some cs := by
  induction sizes, cs using hyphenate.induct with
  | case1 cs => rfl
  | case2 cs n => rfl
  | case3 n sizes cs more ih =>
    obtain ⟨m, sizes, rfl⟩ := List.exists_cons_of_ne_nil more
    rw [List.sum_cons] at enough
    have long : (cs.take n).length = n := List.length_take_of_le (by omega)
    have rest : (m :: sizes).sum ≤ (cs.drop n).length := by
      rw [List.length_drop]
      omega
    simp only [hyphenate, unhyphenate?]
    rw [List.drop_left' long, List.take_left' long]
    simp [ih rest]

theorem length_hyphenate {n : Nat} {sizes : List Nat} {cs : List Char}
    (enough : (n :: sizes).sum ≤ cs.length) :
    (hyphenate (n :: sizes) cs).length = cs.length + sizes.length := by
  induction sizes generalizing n cs with
  | nil => rfl
  | cons m sizes ih =>
    rw [List.sum_cons] at enough
    have rest : (m :: sizes).sum ≤ (cs.drop n).length := by
      rw [List.length_drop]
      omega
    simp only [hyphenate, List.length_append, List.length_cons, ih rest, List.length_take,
      List.length_drop]
    omega

theorem mem_hyphenate {sizes : List Nat} {cs : List Char} {c : Char} (h : c ∈ hyphenate sizes cs) :
    c = '-' ∨ c ∈ cs := by
  induction sizes, cs using hyphenate.induct with
  | case1 cs => exact .inr h
  | case2 cs n => exact .inr h
  | case3 n sizes cs more ih =>
    obtain ⟨m, sizes, rfl⟩ := List.exists_cons_of_ne_nil more
    simp only [hyphenate] at h
    rcases List.mem_append.mp h with h | h
    · exact .inr (List.mem_of_mem_take h)
    · rcases List.mem_cons.mp h with h | h
      · exact .inl h
      · exact (ih h).imp_right List.mem_of_mem_drop

theorem toList_toText (u : Uuid) : u.toText.toList = hyphenate groupSizes u.digits :=
  String.toList_ofList

theorem isBlank_of_mem_toText {u : Uuid} {c : Char} (h : c ∈ u.toText.toList) :
    Text.isBlank c = false := by
  rw [toList_toText] at h
  rcases mem_hyphenate h with rfl | h
  · decide
  · obtain ⟨d, hd, rfl⟩ := mem_hexDigits h
    exact isBlank_hexDigit d hd

theorem parse?_toText (u : Uuid) : parse? u.toText = some u := by
  have digits : u.digits.length = 32 := length_hexDigits 32 _
  have enough : groupSizes.sum ≤ u.digits.length := by rw [digits]; decide
  have length : (hyphenate groupSizes u.digits).length = 36 := by
    rw [groupSizes, length_hyphenate enough, digits]
    rfl
  rw [parse?, toList_toText, ofChars?, if_neg (by omega), if_pos length, ofHyphenated?,
    if_pos length, unhyphenate?_hyphenate enough, Option.bind_some, ofDigits?_digits]

theorem parse?_trim_toText (u : Uuid) : parse? (Text.trim u.toText) = some u := by
  rw [Text.trim, Text.trimChars_eq_self fun _ => isBlank_of_mem_toText, String.ofList_toList,
    parse?_toText]

end Uuid

end MeetingInsights
