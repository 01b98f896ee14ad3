/-! # White space

The property `White_Space` of Unicode, and trimming by it.
-/

namespace MeetingInsights.Text

/-- A character with the Unicode property `White_Space`. -/
def isBlank (c : Char) : Bool :=
  let n := c.toNat
  (0x9 ≤ n && n ≤ 0xD) || n == 0x20 || n == 0x85 || n == 0xA0 || n == 0x1680 ||
    (0x2000 ≤ n && n ≤ 0x200A) || n == 0x2028 || n == 0x2029 || n == 0x202F || n == 0x205F ||
    n == 0x3000

def trimLeft (cs : List Char) : List Char := cs.dropWhile isBlank

/-- The characters without their leading and trailing white space. -/
def trimChars (cs : List Char) : List Char := (trimLeft (trimLeft cs).reverse).reverse

def trim (s : String) : String := String.ofList (trimChars s.toList)

def isBlankText (s : String) : Bool := s.toList.all isBlank

theorem trimLeft_eq_nil_iff {cs : List Char} : trimLeft cs = [] ↔ ∀ c ∈ cs, isBlank c = true := by
  induction cs with
  | nil => simp [trimLeft]
  | cons c cs ih =>
    by_cases h : isBlank c = true
    · rw [trimLeft, List.dropWhile_cons_of_pos h, ← trimLeft, ih]
      simp [h]
    · simp [trimLeft, h]

theorem trimLeft_cons {c : Char} (cs : List Char) (h : isBlank c = false) :
    trimLeft (c :: cs) = c :: cs := by
  rw [trimLeft, List.dropWhile_cons_of_neg (by simp [h])]

theorem trimChars_of_ends {a b : Char} (cs : List Char) (first : isBlank a = false)
    (last : isBlank b = false) : trimChars (a :: cs ++ [b]) = a :: cs ++ [b] := by
  rw [trimChars, List.cons_append, trimLeft_cons _ first, ← List.cons_append, List.reverse_append,
    List.reverse_singleton, List.singleton_append, trimLeft_cons _ last, List.reverse_cons,
    List.reverse_reverse]

/-- The first character that trimming keeps is not white space. -/
theorem isBlank_head_trimLeft {c : Char} {cs rest : List Char} (h : trimLeft cs = c :: rest) :
    isBlank c = false := by
  induction cs with
  | nil => simp [trimLeft] at h
  | cons d cs ih =>
    by_cases hd : isBlank d = true
    · exact ih (by simpa [trimLeft, hd] using h)
    · have hcons : d :: cs = c :: rest := by simpa [trimLeft, hd] using h
      rw [List.cons.injEq] at hcons
      simpa [← hcons.1] using hd

theorem trimChars_eq_nil_iff {cs : List Char} :
    trimChars cs = [] ↔ ∀ c ∈ cs, isBlank c = true := by
  rw [trimChars, List.reverse_eq_nil_iff, trimLeft_eq_nil_iff]
  constructor
  · intro h
    rw [← trimLeft_eq_nil_iff]
    match hl : trimLeft cs with
    | [] => rfl
    | c :: rest =>
      have hc := isBlank_head_trimLeft hl
      rw [h c (by simp [hl])] at hc
      simp at hc
  · intro h c hc
    rw [trimLeft_eq_nil_iff.2 h] at hc
    simp at hc

theorem isBlankText_iff_trim {s : String} : isBlankText s = true ↔ trim s = "" := by
  rw [isBlankText, List.all_eq_true, ← trimChars_eq_nil_iff, trim, ← String.toList_inj,
    String.toList_ofList]
  rfl

end MeetingInsights.Text
