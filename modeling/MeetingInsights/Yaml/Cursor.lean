/-! # Positions in a YAML text

The characters that are still to be read, with their place, and the classes of characters that
separate words and lines.
-/

namespace MeetingInsights.Yaml

/-- A character that may stand in a YAML text at all. -/
def isAllowed (c : Char) : Bool :=
  let n := c.toNat
  n == 0x9 || n == 0xA || n == 0xD || (0x20 ≤ n && n ≤ 0x7E) || n == 0x85 ||
    (0xA0 ≤ n && n ≤ 0xFFFD) || 0x10000 ≤ n

def isBlank (c : Char) : Bool := c == ' ' || c == '\t'

def isBreak (c : Char) : Bool :=
  c == '\n' || c == '\r' || c == '\u0085' || c == '\u2028' || c == '\u2029'

/-- Whether a word ends before the next character: at a blank, at a line's end, or at the end. -/
def endsWord (c : Option Char) : Bool := c.all fun c => isBlank c || isBreak c

def endsLine (c : Option Char) : Bool := c.all isBreak

def isWordChar (c : Char) : Bool :=
  ('a' ≤ c && c ≤ 'z') || ('A' ≤ c && c ≤ 'Z') || ('0' ≤ c && c ≤ '9') || c == '_' || c == '-'

/-- What is still to be read, and where it begins. -/
structure Cursor where
  rest : List Char
  index : Nat
  line : Nat
  column : Nat
deriving DecidableEq, Repr, Inhabited

namespace Cursor

def start (cs : List Char) : Cursor := ⟨cs, 0, 0, 0⟩

def peek (c : Cursor) : Option Char := c.rest.head?

def peekAt (c : Cursor) (n : Nat) : Option Char := c.rest[n]?

def sees (c : Cursor) (ch : Char) : Bool := c.peek == some ch

def advance (c : Cursor) (n : Nat) : Cursor :=
  { c with rest := c.rest.drop n, index := c.index + n, column := c.column + n }

/-- Passes over the characters of one line that satisfy `p`. -/
def skipWhile (c : Cursor) (p : Char → Bool) : Cursor := c.advance (c.rest.takeWhile p).length

def skipBlanks (c : Cursor) : Cursor := c.skipWhile isBlank

def skipToBreak (c : Cursor) : Cursor := c.skipWhile fun ch => !isBreak ch

/-- Passes over a line break, and tells what it stands for: a new line, unless it is one of the two
separators that stand for themselves. -/
def takeBreak (c : Cursor) : List Char × Cursor :=
  match c.rest with
  | '\r' :: '\n' :: rest => (['\n'], ⟨rest, c.index + 2, c.line + 1, 0⟩)
  | ch :: rest =>
    if ch == '\u2028' || ch == '\u2029' then ([ch], ⟨rest, c.index + 1, c.line + 1, 0⟩)
    else if isBreak ch then (['\n'], ⟨rest, c.index + 1, c.line + 1, 0⟩)
    else ([], c)
  | [] => ([], c)

def skipBreak (c : Cursor) : Cursor := c.takeBreak.2

/-- Whether a line begins with a document marker of three equal characters. -/
def seesMarkerOf (c : Cursor) (ch : Char) : Bool :=
  c.column == 0 && c.rest.take 3 == [ch, ch, ch] && endsWord (c.peekAt 3)

def seesMarker (c : Cursor) : Bool := c.seesMarkerOf '-' || c.seesMarkerOf '.'

end Cursor

end MeetingInsights.Yaml
