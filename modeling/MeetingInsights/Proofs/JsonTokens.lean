import MeetingInsights.Proofs.JsonDocuments

/-! # Tokens of JSON

White space, numbers and string literals as the reader takes them: each up to a character that does
not continue it, and alike before any other such character.
-/

namespace MeetingInsights.Json

open Number (isDigit)

def Spaces (cs : List Char) : Prop := ∀ c ∈ cs, isSpace c = true

theorem Spaces.nil : Spaces [] := fun _ h => nomatch h

theorem Spaces.append {cs ds : List Char} (h : Spaces cs) (h' : Spaces ds) : Spaces (cs ++ ds) :=
  List.forall_mem_append.mpr ⟨h, h'⟩

theorem skipSpace_append {ws : List Char} (spaces : Spaces ws) (cs : List Char) :
    skipSpace (ws ++ cs) = skipSpace cs :=
  List.dropWhile_append_of_pos spaces

theorem Spaces.skipSpace_eq_nil {ws : List Char} (spaces : Spaces ws) : skipSpace ws = [] := by
  rw [← List.append_nil ws, skipSpace_append spaces]
  rfl

private theorem isSpace_head_skipSpace {c : Char} {cs : List Char} (h : c ∈ (skipSpace cs).head?) :
    isSpace c = false := by
  have first := List.head?_dropWhile_not isSpace cs
  rw [← skipSpace, Option.mem_def.mp h] at first
  simpa using first

theorem skipSpace_idem (cs : List Char) : skipSpace (skipSpace cs) = skipSpace cs := by
  cases h : skipSpace cs with
  | nil => rfl
  | cons c rest =>
    have front : c ∈ (skipSpace cs).head? := by rw [h]; rfl
    exact skipSpace_cons (isSpace_head_skipSpace front)

theorem exists_spaces (cs : List Char) : ∃ ws, Spaces ws ∧ cs = ws ++ skipSpace cs :=
  ⟨cs.takeWhile isSpace, List.all_eq_true.mp List.all_takeWhile,
    List.takeWhile_append_dropWhile.symm⟩

theorem exists_spaces_of_skipSpace {cs rest : List Char} (h : skipSpace cs = rest) :
    ∃ ws, Spaces ws ∧ cs = ws ++ rest :=
  h ▸ exists_spaces cs

theorem EndsNumber.append_spaces {ws rest : List Char} (spaces : Spaces ws) (ends : EndsNumber rest) :
    EndsNumber (ws ++ rest) := by
  cases ws with
  | nil => exact ends
  | cons c ws =>
    have space : isSpace c = true := spaces c List.mem_cons_self
    refine .of_cons ?_
    simp only [isSpace, Bool.or_eq_true, beq_iff_eq] at space
    rcases space with ((rfl | rfl) | rfl) | rfl <;> decide

/-- Whether digits end before these characters. -/
def EndsDigits (cs : List Char) : Prop := ∀ c ∈ cs.head?, isDigit c = false

/-- What a reader takes for `a`, whatever follows that it ends before. -/
def Takes {α : Type} (read : List Char → Option (α × List Char)) (ends : List Char → Prop)
    (t : List Char) (a : α) : Prop :=
  ∀ r, ends r → read (t ++ r) = some (a, r)

private theorem wholePart?_takes {cs w rest : List Char} (h : wholePart? cs = some (w, rest)) :
    cs = w ++ rest ∧ (∃ c w', w = c :: w' ∧ isDigit c = true) ∧ Takes wholePart? EndsDigits w w := by
  revert h
  fun_cases wholePart? cs with
  | case1 => exact fun h => nomatch h
  | case2 | case3 =>
    intro h
    cases h
    refine ⟨rfl, ⟨_, _, rfl, by decide⟩, fun r ends => ?_⟩
    cases r with
    | nil => rfl
    | cons c r => simp [wholePart?, ends c rfl]
  | case4 => exact fun h => nomatch h
  | case5 cs nonzero ds some =>
    intro h
    obtain ⟨rfl, rfl⟩ : ds = w ∧ cs.dropWhile isDigit = rest := by simpa using h
    have digits : ∀ c ∈ ds, isDigit c = true := List.all_eq_true.mp List.all_takeWhile
    have split : cs = ds ++ cs.dropWhile isDigit := List.takeWhile_append_dropWhile.symm
    obtain ⟨d, ds', first⟩ := List.exists_cons_of_ne_nil (l := ds) (by simpa using some)
    refine ⟨split, ⟨d, ds', first, digits d (by simp [first])⟩, fun r ends => ?_⟩
    obtain ⟨taken, left⟩ := Number.span_digits digits ends
    have other : ∀ rest, ds ++ r = '0' :: rest → False := by
      rintro rest same
      rw [first] at same split
      rw [(List.cons.inj same).1] at split
      exact nonzero _ split
    rw [wholePart?.eq_3 _ other, taken, left]
    simpa using some

private theorem fractionPart?_takes {cs rest : List Char} {f : Option (List Char)}
    (h : fractionPart? cs = some (f, rest)) :
    ∃ t, cs = t ++ rest ∧ (∀ c ∈ t.head?, c = '.') ∧
      Takes fractionPart? (fun r => EndsDigits r ∧ '.' ∉ r.head?) t f := by
  revert h
  fun_cases fractionPart? cs with
  | case1 => exact fun h => nomatch h
  | case2 tail ds some =>
    intro h
    obtain ⟨rfl, rfl⟩ : Option.some ds = f ∧ tail.dropWhile isDigit = rest := by simpa using h
    refine ⟨'.' :: ds, ?_, by simp, fun r ends => ?_⟩
    · rw [List.cons_append, List.takeWhile_append_dropWhile]
    · have digits : ∀ c ∈ ds, isDigit c = true := List.all_eq_true.mp List.all_takeWhile
      obtain ⟨taken, left⟩ := Number.span_digits digits ends.1
      simp [fractionPart?, taken, left, some]
  | case3 cs other =>
    intro h
    cases h
    refine ⟨[], rfl, by simp, fun r ends => ?_⟩
    exact fractionPart?.eq_2 r fun rest same => ends.2 (by simp [same])

private theorem takeSign_takes (cs : List Char) :
    ∃ t, cs = t ++ (Number.takeSign cs).2 ∧
      ∀ c r, isDigit c = true → Number.takeSign (t ++ c :: r) = ((Number.takeSign cs).1, c :: r) := by
  fun_cases Number.takeSign cs with
  | case1 cs => exact ⟨['-'], rfl, fun _ _ _ => rfl⟩
  | case2 cs => exact ⟨['+'], rfl, fun _ _ _ => rfl⟩
  | case3 cs =>
    refine ⟨[], rfl, fun c r digit => ?_⟩
    refine Number.takeSign.eq_3 (c :: r) ?_ ?_ <;>
    · rintro rest same
      rw [(List.cons.inj same).1] at digit
      exact absurd digit (by decide)

private theorem exponentPart?_takes {cs rest : List Char} {p : Option Int}
    (h : exponentPart? cs = some (p, rest)) :
    ∃ t, cs = t ++ rest ∧ (∀ c ∈ t.head?, c = 'e' ∨ c = 'E') ∧
      Takes exponentPart? EndsNumber t p := by
  revert h
  fun_cases exponentPart? cs with
  | case1 => exact fun h => nomatch h
  | case2 c tail mark negative left signed ds n some =>
    intro h
    simp only [Option.some.injEq, Prod.mk.injEq] at h
    obtain ⟨rfl, rfl⟩ := h
    obtain ⟨sign, split, signs⟩ := takeSign_takes tail
    rw [signed] at split signs
    have digits : ∀ c ∈ ds, isDigit c = true := List.all_eq_true.mp List.all_takeWhile
    obtain ⟨d, ds', first⟩ := List.exists_cons_of_ne_nil (l := ds) (by simpa using some)
    have digit : isDigit d = true := digits d (by simp [first])
    refine ⟨c :: (sign ++ ds), ?_, by simpa using mark, fun r ends => ?_⟩
    · rw [List.cons_append, List.append_assoc, List.takeWhile_append_dropWhile, ← split]
    · obtain ⟨taken, rest⟩ := Number.span_digits digits ends.isDigit
      have sign : Number.takeSign (sign ++ (ds ++ r)) = (negative, ds ++ r) := by
        rw [first]
        exact signs d (ds' ++ r) digit
      simp [exponentPart?, mark, sign, taken, rest, some, n]
  | case3 c tail other =>
    intro h
    cases h
    exact ⟨[], rfl, by simp, fun r ends => exponentPart?_ends ends⟩
  | case4 =>
    intro h
    cases h
    exact ⟨[], rfl, by simp, fun r ends => exponentPart?_ends ends⟩

theorem numeral?_takes {negative : Bool} {cs rest : List Char} {n : Numeral}
    (h : numeral? negative cs = some (n, rest)) :
    ∃ t, cs = t ++ rest ∧ (∃ c t', t = c :: t' ∧ isDigit c = true) ∧
      Takes (numeral? negative) EndsNumber t n := by
  simp only [numeral?, Option.bind_eq_bind, Option.bind_eq_some_iff, Prod.exists, Option.pure_def,
    Option.some.injEq, Prod.mk.injEq] at h
  obtain ⟨w, left₁, whole, f, left₂, fraction, p, left₃, exponent, rfl, rfl⟩ := h
  obtain ⟨rfl, ⟨c, w', first, digit⟩, takesWhole⟩ := wholePart?_takes whole
  obtain ⟨t₂, rfl, point, takesFraction⟩ := fractionPart?_takes fraction
  obtain ⟨t₃, rfl, mark, takesExponent⟩ := exponentPart?_takes exponent
  refine ⟨w ++ (t₂ ++ t₃), by simp, ⟨c, _, by rw [first]; rfl, digit⟩, fun r ends => ?_⟩
  have afterFraction : EndsDigits (t₃ ++ r) ∧ '.' ∉ (t₃ ++ r).head? := by
    cases t₃ with
    | nil => exact ⟨ends.isDigit, fun point => absurd (ends '.' point) (by decide)⟩
    | cons c t => rcases mark c rfl with rfl | rfl <;> simp [EndsDigits, isDigit]
  have afterWhole : EndsDigits (t₂ ++ (t₃ ++ r)) := by
    cases t₂ with
    | nil => exact afterFraction.1
    | cons c t => rw [point c rfl]; simp [EndsDigits, isDigit]
  simp [numeral?, takesWhole _ afterWhole, takesFraction _ afterFraction, takesExponent _ ends]

theorem literal?_takes {cs rest : List Char} {s : Literal} (h : literal? cs = some (s, rest)) :
    ∃ t, cs = t ++ rest ∧ Takes literal? (fun _ => True) t s := by
  induction cs using literal?.induct generalizing s with
  | case1 => cases h
  | case2 cs =>
    simp only [literal?, Option.some.injEq, Prod.mk.injEq] at h
    obtain ⟨rfl, rfl⟩ := h
    exact ⟨['"'], rfl, fun _ _ => rfl⟩
  | case3 a b c d cs ih =>
    simp only [literal?, Option.bind_eq_bind, Option.bind_eq_some_iff, Prod.exists, Option.pure_def,
      Option.some.injEq, Prod.mk.injEq] at h
    obtain ⟨n, unit, s, _, more, rfl, rfl⟩ := h
    obtain ⟨t, rfl, takes⟩ := ih more
    refine ⟨'\\' :: 'u' :: a :: b :: c :: d :: t, rfl, fun r _ => ?_⟩
    simp [literal?, unit, takes r trivial]
  | case4 c cs other ih =>
    simp only [literal?.eq_4 c cs other, Option.bind_eq_bind, Option.bind_eq_some_iff, Prod.exists,
      Option.pure_def, Option.some.injEq, Prod.mk.injEq] at h
    obtain ⟨e, escape, s, _, more, rfl, rfl⟩ := h
    obtain ⟨t, rfl, takes⟩ := ih more
    have unlike : c ≠ 'u' := by
      rintro rfl
      cases escape
    refine ⟨'\\' :: c :: t, rfl, fun r _ => ?_⟩
    rw [List.cons_append, List.cons_append,
      literal?.eq_4 c (t ++ r) fun _ _ _ _ _ same => absurd same unlike, escape, takes r trivial]
    rfl
  | case5 c cs quote unit escape bad =>
    rw [literal?.eq_5 c cs quote unit escape, if_pos bad] at h
    cases h
  | case6 c cs quote unit escape good ih =>
    rw [literal?.eq_5 c cs quote unit escape, if_neg good] at h
    simp only [Option.map_eq_some_iff, Prod.exists, Prod.mk.injEq] at h
    obtain ⟨s, _, more, rfl, rfl⟩ := h
    obtain ⟨t, rfl, takes⟩ := ih more
    have plain : c ≠ '\\' := fun same => good (.inr same)
    refine ⟨c :: t, rfl, fun r _ => ?_⟩
    rw [List.cons_append, literal?.eq_5 c (t ++ r) quote (fun _ _ _ _ _ same => absurd same plain)
      (fun _ _ same => absurd same plain), if_neg good, takes r trivial]
    rfl

end MeetingInsights.Json
