/-! # Identifiers

A 128-bit identifier, its lowercase hyphenated text, and the four spellings that are read back: the
hyphenated form, the same in braces or after `urn:uuid:`, and the bare 32 digits. Hexadecimal digits
and the letters before them may have either case.
-/

namespace MeetingInsights

structure Uuid where
  bits : BitVec 128
deriving DecidableEq, Repr, Inhabited

namespace Uuid

def hexDigit (n : Nat) : Char :=
  if n < 10 then Char.ofNat ('0'.toNat + n) else Char.ofNat ('a'.toNat + (n - 10))

def hexValue? (c : Char) : Option Nat :=
  if '0' ≤ c ∧ c ≤ '9' then some (c.toNat - '0'.toNat)
  else if 'a' ≤ c ∧ c ≤ 'f' then some (c.toNat - 'a'.toNat + 10)
  else if 'A' ≤ c ∧ c ≤ 'F' then some (c.toNat - 'A'.toNat + 10)
  else none

def hexDigits : (width n : Nat) → List Char
  | 0, _ => []
  | width + 1, n => hexDigits width (n / 16) ++ [hexDigit (n % 16)]

/-- The number that hexadecimal digits spell after the digits of `acc`. -/
def hexNumber? (acc : Nat) : List Char → Option Nat
  | [] => some acc
  | c :: cs => do hexNumber? (acc * 16 + (← hexValue? c)) cs

def ofDigits? (cs : List Char) : Option Uuid :=
  if cs.length = 32 then (hexNumber? 0 cs).map fun n => ⟨BitVec.ofNat 128 n⟩ else none

def groupSizes : List Nat := [8, 4, 4, 4, 12]

def hyphenate : (sizes : List Nat) → List Char → List Char
  | [], cs => cs
  | [_], cs => cs
  | n :: sizes, cs => cs.take n ++ '-' :: hyphenate sizes (cs.drop n)

/-- Takes the hyphens between groups of the given sizes out again. -/
def unhyphenate? : (sizes : List Nat) → List Char → Option (List Char)
  | [], cs => some cs
  | [_], cs => some cs
  | n :: sizes, cs =>
    match cs.drop n with
    | '-' :: rest => (unhyphenate? sizes rest).map (cs.take n ++ ·)
    | _ => none

def ofHyphenated? (cs : List Char) : Option Uuid :=
  if cs.length = 36 then (unhyphenate? groupSizes cs).bind ofDigits? else none

def digits (u : Uuid) : List Char := hexDigits 32 u.bits.toNat

def toText (u : Uuid) : String := String.ofList (hyphenate groupSizes u.digits)

instance : ToString Uuid := ⟨toText⟩

def urnMark : List Char := ['u', 'r', 'n', ':', 'u', 'u', 'i', 'd', ':']

def ofChars? (cs : List Char) : Option Uuid :=
  if cs.length = 32 then ofDigits? cs
  else if cs.length = 36 then ofHyphenated? cs
  else if cs.length = 38 ∧ cs.head? = some '{' ∧ cs.getLast? = some '}' then
    ofHyphenated? cs.tail.dropLast
  else if cs.length = 45 ∧ (cs.take 9).map Char.toLower = urnMark then ofHyphenated? (cs.drop 9)
  else none

def parse? (s : String) : Option Uuid := ofChars? s.toList

/-- The spellings that stand for an identifier besides the letter case of their digits. -/
inductive Spelling where
  | bare
  | hyphenated
  | braced
  | urn
deriving DecidableEq, Repr

/-- Writes 32 digits, of whatever case, in one of the spellings. -/
def Spelling.write (form : Spelling) (ds : List Char) : List Char :=
  match form with
  | .bare => ds
  | .hyphenated => hyphenate groupSizes ds
  | .braced => '{' :: hyphenate groupSizes ds ++ ['}']
  | .urn => urnMark ++ hyphenate groupSizes ds

/-- The identifier of version 7 for a count of milliseconds since 1970, with random bits behind it. -/
def ofTime (millis noise : Nat) : Uuid :=
  let high := (millis % (1 <<< 48)) <<< 16 + 0x7000 + noise >>> 62 % (1 <<< 12)
  ⟨BitVec.ofNat 128 (high <<< 64 + 1 <<< 63 + noise % (1 <<< 62))⟩

/-- The identifier after this one, wrapping around at the last. -/
def next (u : Uuid) : Uuid := ⟨u.bits + 1⟩

end Uuid

end MeetingInsights
