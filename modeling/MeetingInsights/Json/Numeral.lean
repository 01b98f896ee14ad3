import MeetingInsights.Number.Binary

/-! # Number literals of JSON

What a number literal stands for: an integer of 64 bits where it can, and else a floating-point number
of eight bytes. The latter is made of the leading digits that fit into 64 bits and a power of ten, by
one multiplication or division, so that it need not be the nearest one when there are many digits.
-/

namespace MeetingInsights.Json

open Number (Binary digitsValue double)

/-- A number literal as it is written: digits before and perhaps after a point, and perhaps a power of
ten. -/
structure Numeral where
  negative : Bool
  whole : List Char
  fraction : Option (List Char)
  power : Option Int
deriving DecidableEq, Repr

namespace Numeral

/-- The integer that a literal stands for: one without point and exponent, between the least signed
and the greatest unsigned integer of 64 bits, and not a negative zero. -/
def int? (n : Numeral) : Option Int :=
  let digits := digitsValue 0 n.whole
  if n.fraction.isSome || n.power.isSome then none
  else if n.negative then
    if digits = 0 ∨ Nat.pow 2 63 < digits then none else some (-(digits : Int))
  else if digits < Nat.pow 2 64 then some digits
  else none

/-- Adds digits to a number as long as it fits into 64 bits. The number comes with the digits that
are left. -/
def takeDigits (n : Nat) : List Char → Nat × List Char
  | [] => (n, [])
  | c :: cs =>
    let m := digitsValue n [c]
    if m < Nat.pow 2 64 then takeDigits m cs else (n, c :: cs)

def significant (n : Numeral) : Nat × Int :=
  let fraction := n.fraction.getD []
  let (digits, wholeLeft) := takeDigits 0 n.whole
  let (digits, fractionLeft) := takeDigits digits fraction
  let taken := fraction.length - fractionLeft.length
  (digits, n.power.getD 0 + wholeLeft.length - taken)

def maxPower : Nat := 308

/-- Multiplies by a power of ten, or divides by one. A power out of reach is divided by in steps, until
nothing is left of the number. -/
def scale? (x : Binary) (e : Int) : (fuel : Nat) → Option Binary
  | 0 => none
  | fuel + 1 =>
    if e.natAbs ≤ maxPower then
      let power := double.powerOfTen e.natAbs
      if e < 0 then some (double.div x power)
      else (some (double.mul x power)).filter Binary.isFinite
    else if x.isZero then some x
    else if 0 < e then none
    else scale? (double.div x (double.powerOfTen maxPower)) (e + maxPower) fuel

/-- The steps that bring every number of 64 bits to nothing, and one to see it. -/
def scaleSteps : Nat := 4

/-- The floating-point number that a literal stands for, unless it is out of range. -/
def float? (n : Numeral) : Option Binary :=
  let (digits, e) := n.significant
  scale? (double.ofFraction n.negative digits 1) e scaleSteps

def isNumber (n : Numeral) : Bool := n.int?.isSome || n.float?.isSome

end Numeral

end MeetingInsights.Json
