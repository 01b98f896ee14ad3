import MeetingInsights.Json.Value
import MeetingInsights.Number.Shortest

/-! # Writing JSON

The compact text of a value, and the indented one. A quote, a backslash and the control characters
below space are escaped, and nothing else is.
-/

namespace MeetingInsights.Json

def hexDigit (n : Nat) : Char :=
  if n < 10 then Char.ofNat ('0'.toNat + n) else Char.ofNat ('a'.toNat + (n - 10))

def escapeChar (c : Char) : List Char :=
  if c = '"' then ['\\', '"']
  else if c = '\\' then ['\\', '\\']
  else if c = '\x08' then ['\\', 'b']
  else if c = '\x0c' then ['\\', 'f']
  else if c = '\n' then ['\\', 'n']
  else if c = '\r' then ['\\', 'r']
  else if c = '\t' then ['\\', 't']
  else if c.toNat < 0x20 then ['\\', 'u', '0', '0', hexDigit (c.toNat / 16), hexDigit (c.toNat % 16)]
  else [c]

def quote (s : String) : List Char := '"' :: s.toList.flatMap escapeChar ++ ['"']

/-- Powers of ten are written with an exponent below 10 ^ -5 and from 10 ^ 16 on. -/
def numberStyle : Number.Style := ⟨some (-5, 16), true⟩

/-- A number that JSON cannot express is written as `null`. -/
def floatText (x : Number.Binary) : List Char :=
  if x.isFinite then (numberStyle.text Number.double x).toList else ['n', 'u', 'l', 'l']

def intText (n : Int) : List Char :=
  if n < 0 then '-' :: Nat.toDigits 10 n.natAbs else Nat.toDigits 10 n.toNat

mutual

def write : Json → List Char
  | .null => ['n', 'u', 'l', 'l']
  | .bool true => ['t', 'r', 'u', 'e']
  | .bool false => ['f', 'a', 'l', 's', 'e']
  | .int n => intText n
  | .float x => floatText x
  | .str s => quote s
  | .arr items => '[' :: writeItems items ++ [']']
  | .obj members => '{' :: writeMembers members ++ ['}']

def writeItems : List Json → List Char
  | [] => []
  | [v] => write v
  | v :: vs => write v ++ ',' :: writeItems vs

def writeMembers : List (String × Json) → List Char
  | [] => []
  | [(k, v)] => quote k ++ ':' :: write v
  | (k, v) :: ms => quote k ++ ':' :: write v ++ ',' :: writeMembers ms

end

def toText (v : Json) : String := String.ofList (write v)

def newline (level : Nat) : List Char := '\n' :: List.replicate (2 * level) ' '

mutual

def writeIndented (level : Nat) : Json → List Char
  | .arr [] => ['[', ']']
  | .arr items => '[' :: indentItems (level + 1) items ++ newline level ++ [']']
  | .obj [] => ['{', '}']
  | .obj members => '{' :: indentMembers (level + 1) members ++ newline level ++ ['}']
  | .null => write .null
  | .bool b => write (.bool b)
  | .int n => write (.int n)
  | .float x => write (.float x)
  | .str s => write (.str s)

def indentItems (level : Nat) : List Json → List Char
  | [] => []
  | [v] => newline level ++ writeIndented level v
  | v :: vs => newline level ++ writeIndented level v ++ ',' :: indentItems level vs

def indentMembers (level : Nat) : List (String × Json) → List Char
  | [] => []
  | [(k, v)] => newline level ++ quote k ++ ':' :: ' ' :: writeIndented level v
  | (k, v) :: ms =>
    newline level ++ quote k ++ ':' :: ' ' :: writeIndented level v ++ ',' :: indentMembers level ms

end

/-- The text of a value with one element or member a line. -/
def toIndentedText (v : Json) : String := String.ofList (writeIndented 0 v)

end MeetingInsights.Json
