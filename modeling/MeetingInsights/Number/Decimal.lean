/-! # Decimal numbers

A decimal number as it is written: a sign, digits and a power of ten. Besides the reader of floating
literals it holds the reader of unsigned integers of a given width.
-/

namespace MeetingInsights.Number

/-- The number `± digits * 10 ^ exponent`. -/
structure Decimal where
  negative : Bool
  digits : Nat
  exponent : Int
deriving DecidableEq, Repr

def isDigit (c : Char) : Bool := '0' ≤ c && c ≤ '9'

def digitsValue (acc : Nat) (ds : List Char) : Nat :=
  ds.foldl (fun n c => n * 10 + (c.toNat - '0'.toNat)) acc

/-- Splits an optional sign off; the flag tells a minus. -/
def takeSign : List Char → Bool × List Char
  | '-' :: cs => (true, cs)
  | '+' :: cs => (false, cs)
  | cs => (false, cs)

/-- Reads all of `cs` as the power of ten after an `e`, or nothing as the power zero. -/
def exponentPart? (cs : List Char) : Option Int :=
  match cs with
  | [] => some 0
  | c :: rest =>
    if c = 'e' ∨ c = 'E' then
      let (negative, ds) := takeSign rest
      if ds.isEmpty || !ds.all isDigit then none
      else some (if negative then -(digitsValue 0 ds : Int) else digitsValue 0 ds)
    else none

/-- Reads an unsigned floating literal: digits with a point before, among or after them, and then
perhaps a power of ten. -/
def Decimal.unsigned? (negative : Bool) (cs : List Char) : Option Decimal :=
  let whole := cs.takeWhile isDigit
  let rest := cs.dropWhile isDigit
  let (fraction, rest) :=
    match rest with
    | '.' :: tail => (tail.takeWhile isDigit, tail.dropWhile isDigit)
    | _ => ([], rest)
  if whole.isEmpty && fraction.isEmpty then none
  else (exponentPart? rest).map fun e =>
    ⟨negative, digitsValue 0 (whole ++ fraction), e - fraction.length⟩

def Decimal.ofChars? (cs : List Char) : Option Decimal :=
  let (negative, rest) := takeSign cs
  unsigned? negative rest

def naturalInBase? (base : Nat) (cs : List Char) : Option Nat :=
  if cs.isEmpty then none
  else cs.foldlM step 0
where
  /-- The number with one more digit. -/
  step (n : Nat) (c : Char) : Option Nat := do
    let v ← digitIn c
    if v < base then some (n * base + v) else none
  /-- The value of a digit or of a letter of either case that continues the digits. -/
  digitIn (c : Char) : Option Nat :=
    if isDigit c then some (c.toNat - '0'.toNat)
    else if 'a' ≤ c ∧ c ≤ 'z' then some (c.toNat - 'a'.toNat + 10)
    else if 'A' ≤ c ∧ c ≤ 'Z' then some (c.toNat - 'A'.toNat + 10)
    else none

/-- Reads an unsigned integer of at most `bits` bits: decimal digits after an optional plus sign. -/
def unsignedInteger? (bits : Nat) (s : String) : Option Nat :=
  let ds := match s.toList with
    | '+' :: ds => ds
    | ds => ds
  if ds.isEmpty || !ds.all isDigit then none
  else
    let n := digitsValue 0 ds
    if n < Nat.pow 2 bits then some n else none

end MeetingInsights.Number
