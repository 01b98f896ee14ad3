import MeetingInsights.Text.Lowercase

/-! # Theme names

A theme is known by one normalized name, so that spellings that differ in letter case or in spaces
against hyphens lead to the same theme.
-/

namespace MeetingInsights.Theme

def hyphenate (c : Char) : Char := if c = ' ' then '-' else c

def normalizeChars (cs : List Char) : List Char := Text.lowerChars (cs.map hyphenate)

/-- The normalized form of a raw theme name, which an empty one does not have. -/
def normalizeName (raw : String) : Option String :=
  if raw.isEmpty then none else some (String.ofList (normalizeChars raw.toList))

def IsNormal (name : String) : Prop := normalizeName name = some name

instance (name : String) : Decidable (IsNormal name) :=
  inferInstanceAs (Decidable (normalizeName name = some name))

@[simp] theorem normalizeName_empty : normalizeName "" = none := rfl

end MeetingInsights.Theme
