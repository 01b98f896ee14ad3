import MeetingInsights.Json.Printer
import MeetingInsights.Json.Reader
import MeetingInsights.Proofs.DecimalDigits

/-! # Literals that are written

The string literal that is written for a text is read whatever follows it, and stands for the text;
the digits of an integer are read up to a character that does not continue a number, and stand for the
integer.
-/

namespace MeetingInsights.Json

open Number (isDigit digitsValue)

def letterEscaped : List Char := ['\x08', '\x0c', '\n', '\r', '\t']

/-- The part of a literal that is read where a character has been written: a control character
without a letter of its own has been written by its number. -/
def Piece.written (c : Char) : Piece :=
  if c.toNat < 0x20 ∧ c ∉ letterEscaped then .unit c.toNat else .char c

/-- The literal that is read where a text has been written. -/
def Literal.written (s : String) : Literal := s.toList.map Piece.written

private theorem unit?_hexDigit :
    ∀ n < 0x20, unit? '0' '0' (hexDigit (n / 16)) (hexDigit (n % 16)) = some n := by decide

private theorem literal?_escapeChar (c : Char) (cs : List Char) :
    literal? (escapeChar c ++ cs) =
      (literal? cs).map fun (s, rest) => (Piece.written c :: s, rest) := by
  by_cases marked : c ∈ '"' :: '\\' :: letterEscaped
  · simp only [letterEscaped, List.mem_cons, List.not_mem_nil, or_false] at marked
    rcases marked with rfl | rfl | rfl | rfl | rfl | rfl | rfl <;>
      exact Option.map_eq_bind.symm
  · have plain : c ∉ letterEscaped := fun h => marked (by simp [h])
    simp only [letterEscaped, List.mem_cons, List.not_mem_nil, or_false, not_or] at marked
    obtain ⟨quote, backslash, backspace, feed, line, ret, tab⟩ := marked
    by_cases control : c.toNat < 0x20
    · have escaped : escapeChar c =
          ['\\', 'u', '0', '0', hexDigit (c.toNat / 16), hexDigit (c.toNat % 16)] := by
        simp [escapeChar, quote, backslash, backspace, feed, line, ret, tab, control]
      have piece : Piece.written c = .unit c.toNat := if_pos ⟨control, plain⟩
      rw [escaped, piece]
      simp only [List.cons_append, List.nil_append, literal?, unit?_hexDigit _ control]
      exact Option.map_eq_bind.symm
    · simp [escapeChar, quote, backslash, backspace, feed, line, ret, tab, control, literal?,
        Piece.written]

theorem literal?_quoted (s : String) (rest : List Char) :
    literal? (s.toList.flatMap escapeChar ++ '"' :: rest) = some (Literal.written s, rest) := by
  rw [Literal.written]
  induction s.toList with
  | nil => rfl
  | cons c cs ih => rw [List.flatMap_cons, List.append_assoc, literal?_escapeChar, ih]; rfl

private theorem chars?_unit {n : Nat} (small : n < 0x20) (rest : Literal) :
    Literal.chars? (.unit n :: rest) = (Literal.chars? rest).map (Char.ofNat n :: ·) := by
  have high : Literal.isHigh n = false := by simp [Literal.isHigh]; omega
  have low : Literal.isLow n = false := by simp [Literal.isLow]; omega
  match rest with
  | [] => simp [Literal.chars?, high, low]
  | .unit m :: rest => simp [Literal.chars?, high, low]
  | .char c :: rest => simp [Literal.chars?, high, low, Function.comp_def]

theorem text?_written (s : String) : (Literal.written s).text? = some s := by
  have chars (cs : List Char) : Literal.chars? (cs.map Piece.written) = some cs := by
    induction cs with
    | nil => rfl
    | cons c cs ih =>
      rw [List.map_cons, Piece.written]
      split
      case isTrue control => rw [chars?_unit control.1, ih, Option.map_some, Char.ofNat_toNat]
      case isFalse => rw [Literal.chars?, ih, Option.map_some]
  rw [Literal.text?, Literal.written, chars, Option.map_some, String.ofList_toList]

/-- Whether a character may continue a number. -/
def continuesNumber (c : Char) : Bool := isDigit c || c == '.' || c == 'e' || c == 'E'

def EndsNumber (cs : List Char) : Prop := ∀ c ∈ cs.head?, continuesNumber c = false

theorem EndsNumber.of_cons {c : Char} {cs : List Char} (h : continuesNumber c = false) :
    EndsNumber (c :: cs) := by
  simpa [EndsNumber] using h

theorem EndsNumber.isDigit {rest : List Char} (ends : EndsNumber rest) :
    ∀ c ∈ rest.head?, isDigit c = false := by
  intro c first
  have plain := ends c first
  simp only [continuesNumber, Bool.or_eq_false_iff] at plain
  exact plain.1.1.1

private theorem wholePart?_toDigits (n : Nat) {rest : List Char} (ends : EndsNumber rest) :
    wholePart? (Nat.toDigits 10 n ++ rest) = some (Nat.toDigits 10 n, rest) := by
  by_cases zero : n = 0
  · subst zero
    cases rest with
    | nil => rfl
    | cons c rest =>
      simp [wholePart?, ends.isDigit c rfl]
  · have read : (Nat.toDigits 10 n ++ rest).takeWhile isDigit = Nat.toDigits 10 n ∧
        (Nat.toDigits 10 n ++ rest).dropWhile isDigit = rest :=
      Number.span_digits (fun _ => Number.isDigit_of_mem_toDigits) ends.isDigit
    obtain ⟨c, cs, digits, -, nonzero⟩ := Number.toDigits_eq_cons zero
    rw [digits, List.cons_append] at read ⊢
    rw [wholePart?]
    · simp [read]
    · rintro rest' h
      exact nonzero (List.cons.inj h).1

private theorem fractionPart?_ends {rest : List Char} (ends : EndsNumber rest) :
    fractionPart? rest = some (none, rest) := by
  cases rest with
  | nil => rfl
  | cons c rest =>
    have plain := ends c rfl
    rw [fractionPart?]
    rintro rest' h
    rw [(List.cons.inj h).1] at plain
    exact absurd plain (by decide)

theorem exponentPart?_ends {rest : List Char} (ends : EndsNumber rest) :
    exponentPart? rest = some (none, rest) := by
  cases rest with
  | nil => rfl
  | cons c rest =>
    have plain := ends c rfl
    simp only [continuesNumber, Bool.or_eq_false_iff, beq_eq_false_iff_ne] at plain
    simp [exponentPart?, plain.2, plain.1.2]

theorem numeral?_toDigits (negative : Bool) (n : Nat) {rest : List Char} (ends : EndsNumber rest) :
    numeral? negative (Nat.toDigits 10 n ++ rest) =
      some (⟨negative, Nat.toDigits 10 n, none, none⟩, rest) := by
  simp [numeral?, wholePart?_toDigits n ends, fractionPart?_ends ends, exponentPart?_ends ends]

def Numeral.ofInt (n : Int) : Numeral := ⟨n < 0, Nat.toDigits 10 n.natAbs, none, none⟩

/-- An integer of 64 bits, signed or unsigned. -/
def fitsNumeral (n : Int) : Bool := -(Nat.pow 2 63) ≤ n ∧ n < Nat.pow 2 64

theorem int?_ofInt {n : Int} (fits : fitsNumeral n = true) : (Numeral.ofInt n).int? = some n := by
  simp only [fitsNumeral, decide_eq_true_eq] at fits
  simp only [Numeral.int?, Numeral.ofInt, Number.digitsValue_toDigits, Option.isSome_none,
    Bool.or_self, Bool.false_eq_true, if_false, decide_eq_true_eq]
  by_cases negative : n < 0
  · rw [if_pos negative, if_neg (by omega), Option.some.injEq]
    omega
  · rw [if_neg negative, if_pos (by omega), Option.some.injEq]
    omega

end MeetingInsights.Json
