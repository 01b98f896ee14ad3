import MeetingInsights.Proofs.JsonLiterals

/-! # Documents that are written

The compact text of a value is read as one document, whatever follows it, and the text alone as that
document. Only floating-point numbers are left out, since reading them may round.
-/

namespace MeetingInsights.Json

open Number (isDigit)

def negativeZero : Number.Binary := .finite true 0 Number.double.minExponent

mutual

/-- Whether all numbers below are integers of 64 bits, a negative zero among them. -/
def isIntegral : Json → Bool
  | .null => true
  | .bool _ => true
  | .int n => fitsNumeral n
  | .float x => x = negativeZero
  | .str _ => true
  | .arr items => areIntegral items
  | .obj members => membersAreIntegral members

def areIntegral : List Json → Bool
  | [] => true
  | v :: vs => v.isIntegral && areIntegral vs

def membersAreIntegral : List (String × Json) → Bool
  | [] => true
  | (_, v) :: ms => v.isIntegral && membersAreIntegral ms

end

mutual

/-- The document that the text of a value is read as. -/
def toDoc : Json → Doc
  | .null => .null
  | .bool b => .bool b
  | .int n => .number (Numeral.ofInt n)
  | .float x => (Doc.ofChars? (floatText x)).getD .null
  | .str s => .string (Literal.written s)
  | .arr items => .array (docs items)
  | .obj members => .object (memberDocs members)

def docs : List Json → List Doc
  | [] => []
  | v :: vs => v.toDoc :: docs vs

def memberDocs : List (String × Json) → List (Literal × Doc)
  | [] => []
  | (k, v) :: ms => (Literal.written k, v.toDoc) :: memberDocs ms

end

theorem floatText_negativeZero : floatText negativeZero = ['-', '0', '.', '0'] := by rfl

theorem toDoc_negativeZero :
    toDoc (.float negativeZero) = .number ⟨true, ['0'], some ['0'], none⟩ := by rfl

theorem skipSpace_cons {c : Char} {cs : List Char} (h : isSpace c = false) :
    skipSpace (c :: cs) = c :: cs := by
  rw [skipSpace, List.dropWhile_cons_of_neg (by simp [h])]

theorem isSpace_of_isDigit {c : Char} (h : isDigit c = true) : isSpace c = false := by
  rw [Bool.eq_false_iff]
  intro space
  simp only [isSpace, Bool.or_eq_true, beq_iff_eq] at space
  rcases space with ((rfl | rfl) | rfl) | rfl <;> exact absurd h (by decide)

theorem toDigits_eq_cons (n : Nat) :
    ∃ c cs, Nat.toDigits 10 n = c :: cs ∧ isDigit c = true := by
  obtain ⟨c, cs, digits⟩ := List.exists_cons_of_ne_nil (Nat.toDigits_ne_nil (n := n) (b := 10))
  have first : c ∈ Nat.toDigits 10 n := digits ▸ List.mem_cons_self
  exact ⟨c, cs, digits, Number.isDigit_of_mem_toDigits first⟩

theorem write_eq_cons {v : Json} (integral : v.isIntegral = true) :
    ∃ c cs, write v = c :: cs ∧ isSpace c = false ∧ c ≠ ']' := by
  cases v with
  | null => exact ⟨_, _, rfl, by decide, by decide⟩
  | bool b => cases b <;> exact ⟨_, _, rfl, by decide, by decide⟩
  | int n =>
    rw [write, intText]
    split
    · exact ⟨_, _, rfl, by decide, by decide⟩
    · obtain ⟨c, cs, digits, digit⟩ := toDigits_eq_cons n.toNat
      refine ⟨c, cs, digits, isSpace_of_isDigit digit, ?_⟩
      rintro rfl
      exact absurd digit (by decide)
  | float x =>
    obtain rfl : x = negativeZero := by simpa [isIntegral] using integral
    exact ⟨_, _, floatText_negativeZero, by decide, by decide⟩
  | str s => exact ⟨_, _, rfl, by decide, by decide⟩
  | arr items => exact ⟨_, _, rfl, by decide, by decide⟩
  | obj members => exact ⟨_, _, rfl, by decide, by decide⟩

private theorem writeItems_eq_cons {v : Json} {vs : List Json}
    (integral : areIntegral (v :: vs) = true) :
    ∃ c cs, writeItems (v :: vs) = c :: cs ∧ isSpace c = false ∧ c ≠ ']' := by
  rw [areIntegral, Bool.and_eq_true] at integral
  obtain ⟨c, cs, text, space, close⟩ := write_eq_cons integral.1
  cases vs with
  | nil => exact ⟨c, cs, text, space, close⟩
  | cons w vs => exact ⟨c, cs ++ ',' :: writeItems (w :: vs), by simp [writeItems, text], space, close⟩

private theorem writeMembers_eq_cons (m : String × Json) (ms : List (String × Json)) :
    ∃ cs, writeMembers (m :: ms) = '"' :: cs := by
  cases ms with
  | nil => exact ⟨_, rfl⟩
  | cons => exact ⟨_, rfl⟩

private theorem value?_toDigits (fuel n : Nat) {rest : List Char} (ends : EndsNumber rest) :
    value? (fuel + 1) (Nat.toDigits 10 n ++ rest) =
      some (.number ⟨false, Nat.toDigits 10 n, none, none⟩, rest) := by
  have read := numeral?_toDigits false n ends
  obtain ⟨c, cs, digits, digit⟩ := toDigits_eq_cons n
  rw [digits] at read ⊢
  rw [value?, List.cons_append, skipSpace_cons (isSpace_of_isDigit digit)]
  split
  case h_8 => rw [← List.cons_append, read]; rfl
  all_goals
    -- No other kind of value begins with a digit.
    rename_i h
    rw [(List.cons.inj h).1] at digit
    exact absurd digit (by decide)

private theorem value?_int (fuel : Nat) (n : Int) {rest : List Char} (ends : EndsNumber rest) :
    value? (fuel + 1) (write (.int n) ++ rest) = some (toDoc (.int n), rest) := by
  rw [write, intText, toDoc, Numeral.ofInt]
  split
  case isTrue negative =>
    simp [value?, skipSpace_cons, isSpace, numeral?_toDigits true n.natAbs ends, negative]
  case isFalse nonnegative =>
    have size : n.toNat = n.natAbs := by omega
    rw [value?_toDigits fuel n.toNat ends, size]
    simp [nonnegative]

private theorem value?_negativeZero (fuel : Nat) {rest : List Char} (ends : EndsNumber rest) :
    value? (fuel + 1) (write (.float negativeZero) ++ rest) =
      some (toDoc (.float negativeZero), rest) := by
  have fraction : ('0' :: rest).takeWhile isDigit = ['0'] ∧ ('0' :: rest).dropWhile isDigit = rest :=
    Number.span_digits (List.forall_mem_singleton.mpr (by decide)) ends.isDigit
  have before : wholePart? ('0' :: '.' :: '0' :: rest) = some (['0'], '.' :: '0' :: rest) := rfl
  have after : fractionPart? ('.' :: '0' :: rest) = some (some ['0'], rest) := by
    simp [fractionPart?, fraction]
  rw [write, floatText_negativeZero, toDoc_negativeZero]
  simp [value?, skipSpace_cons, isSpace, numeral?, before, after, exponentPart?_ends ends]

mutual

/-- A text is read as the document of its value, up to where the text ends. -/
theorem value?_write {fuel : Nat} {rest : List Char} :
    ∀ v : Json, v.isIntegral = true → EndsNumber rest → 2 * (write v).length ≤ fuel →
      value? fuel (write v ++ rest) = some (v.toDoc, rest)
  | v, integral, ends, enough => by
    obtain ⟨c, cs, text, -, -⟩ := write_eq_cons integral
    have long : 0 < (write v).length := by simp [text]
    obtain ⟨fuel, rfl⟩ : ∃ f, fuel = f + 1 := ⟨fuel - 1, by omega⟩
    cases v with
    | null => rfl
    | bool b => cases b <;> rfl
    | int n => exact value?_int fuel n ends
    | float x =>
      obtain rfl : x = negativeZero := by simpa [isIntegral] using integral
      exact value?_negativeZero fuel ends
    | str s => simp [value?, write, quote, skipSpace_cons, isSpace, literal?_quoted, toDoc]
    | arr items =>
      cases items with
      | nil => rfl
      | cons v vs =>
        have inner : elements? fuel (writeItems (v :: vs) ++ ']' :: rest) =
            some (docs (v :: vs), rest) :=
          elements?_write (v :: vs) (by simp) integral (by simp [write] at enough; omega)
        obtain ⟨c, cs, text, space, close⟩ := writeItems_eq_cons integral
        rw [text, List.cons_append] at inner
        rw [write, List.cons_append, List.cons_append, value?, skipSpace_cons (by decide)]
        simp [text, skipSpace_cons space, close, inner, toDoc]
    | obj members =>
      cases members with
      | nil => rfl
      | cons m ms =>
        have inner : members? fuel (writeMembers (m :: ms) ++ '}' :: rest) =
            some (memberDocs (m :: ms), rest) :=
          members?_write (m :: ms) (by simp) integral (by simp [write] at enough; omega)
        obtain ⟨cs, text⟩ := writeMembers_eq_cons m ms
        rw [text, List.cons_append] at inner
        simp [value?, write, skipSpace_cons, isSpace, text, inner, toDoc]

theorem elements?_write {fuel : Nat} {rest : List Char} :
    ∀ vs : List Json, vs ≠ [] → areIntegral vs = true → 2 * (writeItems vs).length + 1 ≤ fuel →
      elements? fuel (writeItems vs ++ ']' :: rest) = some (docs vs, rest)
  | [], nonempty, _, _ => absurd rfl nonempty
  | v :: vs, _, integral, enough => by
    obtain ⟨fuel, rfl⟩ : ∃ f, fuel = f + 1 := ⟨fuel - 1, by omega⟩
    rw [areIntegral, Bool.and_eq_true] at integral
    cases vs with
    | nil =>
      have first : value? fuel (write v ++ ']' :: rest) = some (v.toDoc, ']' :: rest) :=
        value?_write v integral.1 (.of_cons (by decide)) (by rw [writeItems] at enough; omega)
      simp [elements?, writeItems, first, skipSpace_cons, isSpace, docs]
    | cons w vs =>
      simp only [writeItems, List.length_append, List.length_cons] at enough
      have others : elements? fuel (writeItems (w :: vs) ++ ']' :: rest) =
          some (docs (w :: vs), rest) :=
        elements?_write (w :: vs) (by simp) integral.2 (by omega)
      have first : value? fuel (write v ++ ',' :: (writeItems (w :: vs) ++ ']' :: rest)) =
          some (v.toDoc, ',' :: (writeItems (w :: vs) ++ ']' :: rest)) :=
        value?_write v integral.1 (.of_cons (by decide)) (by omega)
      simp [elements?, writeItems, first, others, skipSpace_cons, isSpace, docs]

theorem members?_write {fuel : Nat} {rest : List Char} :
    ∀ ms : List (String × Json), ms ≠ [] → membersAreIntegral ms = true →
      2 * (writeMembers ms).length + 1 ≤ fuel →
      members? fuel (writeMembers ms ++ '}' :: rest) = some (memberDocs ms, rest)
  | [], nonempty, _, _ => absurd rfl nonempty
  | (k, v) :: ms, _, integral, enough => by
    obtain ⟨fuel, rfl⟩ : ∃ f, fuel = f + 1 := ⟨fuel - 1, by omega⟩
    rw [membersAreIntegral, Bool.and_eq_true] at integral
    cases ms with
    | nil =>
      simp only [writeMembers, List.length_append, List.length_cons] at enough
      have value : value? fuel (write v ++ '}' :: rest) = some (v.toDoc, '}' :: rest) :=
        value?_write v integral.1 (.of_cons (by decide)) (by omega)
      simp [members?, writeMembers, quote, literal?_quoted, value, skipSpace_cons, isSpace,
        memberDocs]
    | cons m ms =>
      simp only [writeMembers, List.length_append, List.length_cons] at enough
      have value : value? fuel (write v ++ ',' :: (writeMembers (m :: ms) ++ '}' :: rest)) =
          some (v.toDoc, ',' :: (writeMembers (m :: ms) ++ '}' :: rest)) :=
        value?_write v integral.1 (.of_cons (by decide)) (by omega)
      have others : members? fuel (writeMembers (m :: ms) ++ '}' :: rest) =
          some (memberDocs (m :: ms), rest) :=
        members?_write (m :: ms) (by simp) integral.2 (by omega)
      simp [members?, writeMembers, quote, literal?_quoted, value, others, skipSpace_cons, isSpace,
        memberDocs]

end

/-- The text of a value is read as the document of the value. -/
theorem parse?_toText {v : Json} (integral : v.isIntegral = true) :
    Doc.parse? v.toText = some v.toDoc := by
  have whole : value? (2 * (write v).length + 2) (write v ++ []) = some (v.toDoc, []) :=
    value?_write v integral (fun _ h => nomatch h) (by omega)
  rw [List.append_nil] at whole
  rw [Doc.parse?, toText, String.toList_ofList, Doc.ofChars?, whole]
  rfl

end MeetingInsights.Json
