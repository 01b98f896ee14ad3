import MeetingInsights.Json.Numeral

/-! # JSON documents

A document as it is written. String literals keep their escapes and numbers their digits, so that a
literal without a meaning, such as half a surrogate pair, does no harm where nobody asks what it
stands for. What a literal stands for is said here too.
-/

namespace MeetingInsights.Json

/-- A part of a string literal: one character, or a code unit given by its four digits. -/
inductive Piece where
  | char (c : Char)
  | unit (n : Nat)
deriving DecidableEq, Repr

abbrev Literal := List Piece

/-- A document. The members of an object keep their order and may repeat a key. -/
inductive Doc where
  | null
  | bool (b : Bool)
  | number (n : Numeral)
  | string (s : Literal)
  | array (items : List Doc)
  | object (members : List (Literal × Doc))
deriving Repr, Inhabited

namespace Literal

def isHigh (n : Nat) : Bool := 0xD800 ≤ n && n < 0xDC00
def isLow (n : Nat) : Bool := 0xDC00 ≤ n && n < 0xE000

/-- The characters a literal stands for. A surrogate must be half of a pair. -/
def chars? : Literal → Option (List Char)
  | [] => some []
  | .char c :: rest => (chars? rest).map (c :: ·)
  | [.unit n] => if isHigh n || isLow n then none else some [Char.ofNat n]
  | .unit n :: .unit m :: rest =>
    if isHigh n then
      if isLow m then
        (chars? rest).map (Char.ofNat (0x10000 + (n - 0xD800) * 0x400 + (m - 0xDC00)) :: ·)
      else none
    else if isLow n then none
    else (chars? (.unit m :: rest)).map (Char.ofNat n :: ·)
  | .unit n :: .char c :: rest =>
    if isHigh n || isLow n then none
    else (chars? rest).map fun cs => Char.ofNat n :: c :: cs

def text? (s : Literal) : Option String := s.chars?.map String.ofList

def ofText (s : String) : Literal := s.toList.map .char

end Literal

/-- The most containers that may enclose one another. -/
def maxDepth : Nat := 127

mutual

/-- Whether every literal below stands for something and no container lies under more than
`maxDepth` others, `depth` of which enclose the document itself. -/
def Doc.isSound (depth : Nat) : Doc → Bool
  | .null => true
  | .bool _ => true
  | .number n => n.isNumber
  | .string s => s.text?.isSome
  | .array items => depth < maxDepth && areSound (depth + 1) items
  | .object members => depth < maxDepth && membersAreSound (depth + 1) members

def areSound (depth : Nat) : List Doc → Bool
  | [] => true
  | d :: ds => d.isSound depth && areSound depth ds

def membersAreSound (depth : Nat) : List (Literal × Doc) → Bool
  | [] => true
  | (k, d) :: ms => (Literal.text? k).isSome && d.isSound depth && membersAreSound depth ms

end

end MeetingInsights.Json
