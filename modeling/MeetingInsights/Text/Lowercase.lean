import MeetingInsights.Text.CaseTable

/-! # Lowercase text

Full lowercase mapping: one character may become two, and a capital sigma becomes the final form at
the end of a word.
-/

namespace MeetingInsights.Text

def isCased (c : Char) : Bool := inRanges casedRanges c.toNat

/-- The characters that the search for a word's end passes over. -/
def isCaseIgnorable (c : Char) : Bool := inRanges caseIgnorableRanges c.toNat

/-- The one-character lowercase form, the character itself when it has none. -/
def lowerChar (c : Char) : Char :=
  match lowercaseSegments.find? (·.contains c.toNat) with
  | some s => Char.ofNat (s.apply c.toNat)
  | none => c

/-- Whether the first character that is not passed over is cased. -/
def reachesCased (cs : List Char) : Bool :=
  match cs.dropWhile isCaseIgnorable with
  | c :: _ => isCased c
  | [] => false

/-- The lowercase form of one character between the characters `before` it, nearest first, and the
characters `after` it. -/
def lowerAt (before : List Char) (c : Char) (after : List Char) : List Char :=
  if c = 'Σ' then
    if reachesCased before && !reachesCased after then ['ς'] else ['σ']
  else if c = 'İ' then ['i', '\u0307']
  else [lowerChar c]

/-- Lowers the characters after `before`, which is given nearest first. -/
def lowerFrom (before : List Char) : List Char → List Char
  | [] => []
  | c :: after => lowerAt before c after ++ lowerFrom (c :: before) after

def lowerChars (cs : List Char) : List Char := lowerFrom [] cs

def lowercase (s : String) : String := String.ofList (lowerChars s.toList)

@[simp] theorem lowerChars_nil : lowerChars [] = [] := rfl

end MeetingInsights.Text
