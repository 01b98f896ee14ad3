import MeetingInsights.Text.Unprintable

/-! # Quoted texts

A text between quotes, in which quotes, backslashes and all characters without a form of their own
are escaped.
-/

namespace MeetingInsights.Text

/-- The code point of a character in braces, in hexadecimal digits. -/
def codePointText (c : Char) : List Char :=
  '\\' :: 'u' :: '\x7b' :: Nat.toDigits 16 c.toNat ++ ['\x7d']

def escapeChar (c : Char) : List Char :=
  if c = '\x00' then ['\\', '0']
  else if c = '\t' then ['\\', 't']
  else if c = '\r' then ['\\', 'r']
  else if c = '\n' then ['\\', 'n']
  else if c = '\\' ∨ c = '"' then ['\\', c]
  else if isPrintable c then [c]
  else codePointText c

def quoted (s : String) : String := String.ofList ('"' :: s.toList.flatMap escapeChar ++ ['"'])

end MeetingInsights.Text
