import MeetingInsights.Number.Decimal

/-! # Binary floating-point numbers

Values of a binary interchange format as exact integers, rounding of decimal numbers to the nearest
value, and the order between values.
-/

namespace MeetingInsights.Number

/-- A format: the bits of a significand, and the least and greatest power of two that the last of
them may stand for. -/
structure Format where
  precision : Nat
  minExponent : Int
  maxExponent : Int
deriving DecidableEq, Repr

def single : Format := ⟨24, -149, 104⟩

def double : Format := ⟨53, -1074, 971⟩

/-- A value of a format; the finite one is `± significand * 2 ^ exponent`. -/
inductive Binary where
  | nan
  | infinite (negative : Bool)
  | finite (negative : Bool) (significand : Nat) (exponent : Int)
deriving DecidableEq, Repr

/-- The integer nearest to `n / d`, and of two such the even one. -/
def roundHalfEven (n d : Nat) : Nat :=
  let q := n / d
  let r := n % d
  if d < 2 * r ∨ (2 * r = d ∧ q % 2 = 1) then q + 1 else q

def scaleDown (n d : Nat) (e : Int) : Nat × Nat :=
  if 0 ≤ e then (n, d * Nat.pow 2 e.toNat) else (n * Nat.pow 2 (-e).toNat, d)

namespace Format

/-- The power of two that the last bit of the significand of `n / d` stands for. -/
def exponentOf (f : Format) (n d : Nat) : Int :=
  let guess : Int := (n.log2 : Int) - d.log2 - f.precision
  let (a, b) := scaleDown n d guess
  let e := if a / b < Nat.pow 2 f.precision then guess else guess + 1
  max e f.minExponent

/-- The value nearest to `± n / d`. -/
def ofFraction (f : Format) (negative : Bool) (n d : Nat) : Binary :=
  if n = 0 then .finite negative 0 f.minExponent
  else
    let e := f.exponentOf n d
    let (a, b) := scaleDown n d e
    let m := roundHalfEven a b
    let (m, e) := if m = Nat.pow 2 f.precision then (m / 2, e + 1) else (m, e)
    if f.maxExponent < e then .infinite negative else .finite negative m e

/-- A power of ten beyond which every value of the formats here is infinite, and below whose inverse
every value is zero. -/
def decimalReach : Int := 400

def ofDecimal (f : Format) (x : Decimal) : Binary :=
  let size : Int := (Nat.toDigits 10 x.digits).length
  if x.digits = 0 then .finite x.negative 0 f.minExponent
  else if decimalReach < size + x.exponent then .infinite x.negative
  else if size + x.exponent < -decimalReach then .finite x.negative 0 f.minExponent
  else if 0 ≤ x.exponent then f.ofFraction x.negative (x.digits * Nat.pow 10 x.exponent.toNat) 1
  else f.ofFraction x.negative x.digits (Nat.pow 10 (-x.exponent).toNat)

/-- The value nearest to `± n / d * 2 ^ e`. -/
def ofScaled (f : Format) (negative : Bool) (n d : Nat) (e : Int) : Binary :=
  let (a, b) := scaleDown n d (-e)
  f.ofFraction negative a b

def ofBinary (f : Format) : Binary → Binary
  | .nan => .nan
  | .infinite negative => .infinite negative
  | .finite negative m e => f.ofScaled negative m 1 e

def mul (f : Format) : Binary → Binary → Binary
  | .finite s m e, .finite s' m' e' => f.ofScaled (s != s') (m * m') 1 (e + e')
  | _, _ => .nan

def div (f : Format) : Binary → Binary → Binary
  | .finite s m e, .finite s' m' e' =>
    if m' = 0 then .nan else f.ofScaled (s != s') m m' (e - e')
  | _, _ => .nan

def powerOfTen (f : Format) (k : Nat) : Binary := f.ofDecimal ⟨false, 1, k⟩

/-- Reads a floating literal, or one of the words `inf`, `infinity` and `nan` in any case, after an
optional sign. -/
def parse? (f : Format) (s : String) : Option Binary :=
  let (negative, rest) := takeSign s.toList
  let word := String.ofList (rest.map Char.toLower)
  if word = "inf" ∨ word = "infinity" then some (.infinite negative)
  else if word = "nan" then some .nan
  else (Decimal.unsigned? negative rest).map f.ofDecimal

end Format

namespace Binary

def inRange (bound : Nat) : Binary → Bool
  | .nan => false
  | .infinite _ => false
  | .finite _ 0 _ => true
  | .finite true _ _ => false
  | .finite false m e =>
    let (a, b) := scaleDown m 1 (-e)
    a ≤ bound * b

def isZero : Binary → Bool
  | .finite _ 0 _ => true
  | _ => false

/-- Whether a value is neither infinite nor the absence of a number. -/
def isFinite : Binary → Bool
  | .finite .. => true
  | _ => false

end Binary

end MeetingInsights.Number
