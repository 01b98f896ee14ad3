import MeetingInsights.Number.Binary

/-! # Shortest decimal text

The fewest decimal digits that read back as a given floating-point value, and of those the nearest,
written in a style that says where powers of ten are used.
-/

namespace MeetingInsights.Number

def tenfold (digits : Nat) (exponent : Int) : Nat × Nat :=
  if 0 ≤ exponent then (digits * Nat.pow 10 exponent.toNat, 1)
  else (digits, Nat.pow 10 (-exponent).toNat)

/-- The difference of two fractions, with the sign dropped, over the product of the denominators. -/
def distance (x y : Nat × Nat) : Nat :=
  max (x.1 * y.2) (y.1 * x.2) - min (x.1 * y.2) (y.1 * x.2)

/-- The reals that round to a value, as fractions of two ends, and whether the ends belong to it. -/
structure RoundingInterval where
  low : Nat × Nat
  high : Nat × Nat
  closed : Bool

namespace RoundingInterval

def contains (i : RoundingInterval) (x : Nat × Nat) : Bool :=
  let below := i.low.1 * x.2
  let above := i.high.1 * x.2
  if i.closed then below ≤ x.1 * i.low.2 && x.1 * i.high.2 ≤ above
  else below < x.1 * i.low.2 && x.1 * i.high.2 < above

end RoundingInterval

/-- The reals that round to the positive value `m * 2 ^ e` of a format. -/
def Format.interval (f : Format) (m : Nat) (e : Int) : RoundingInterval :=
  let quarters (k : Nat) : Nat × Nat := scaleDown k 4 (-e)
  let low :=
    if m = Nat.pow 2 (f.precision - 1) ∧ f.minExponent < e then quarters (4 * m - 1)
    else quarters (4 * m - 2)
  ⟨low, quarters (4 * m + 2), m % 2 == 0⟩

/-- The least power of ten above the positive fraction `x`, searched for from `guess` upwards. -/
def decimalPoint (x : Nat × Nat) (guess : Int) : (fuel : Nat) → Int
  | 0 => guess
  | fuel + 1 =>
    let (a, b) := tenfold 1 guess
    if x.1 * b < a * x.2 then guess else decimalPoint x (guess + 1) fuel

/-- The best number of `count` digits in the interval of `x`, whose decimal point is `point`: its
digits and its power of ten. -/
def candidate? (x : Nat × Nat) (i : RoundingInterval) (point : Int) (count : Nat) :
    Option (Nat × Int) :=
  let exponent := point - count
  let (a, b) := tenfold 1 exponent
  let down := x.1 * b / (x.2 * a)
  let reads (n : Nat) : Bool := n != 0 && i.contains (tenfold n exponent)
  match reads down, reads (down + 1) with
  | true, true =>
    if distance x (tenfold (down + 1) exponent) * (tenfold down exponent).2 <
        distance x (tenfold down exponent) * (tenfold (down + 1) exponent).2
    then some (down + 1, exponent) else some (down, exponent)
  | true, false => some (down, exponent)
  | false, true => some (down + 1, exponent)
  | false, false => none

def shortestFrom (x : Nat × Nat) (i : RoundingInterval) (point : Int) (count : Nat) :
    (fuel : Nat) → Nat × Int
  | 0 => (0, 0)
  | fuel + 1 =>
    match candidate? x i point count with
    | some r => r
    | none => shortestFrom x i point (count + 1) fuel

/-- Drops the zeros at the end of a positive number into its power of ten. -/
def dropZeros (digits : Nat) (exponent : Int) : (fuel : Nat) → Nat × Int
  | 0 => (digits, exponent)
  | fuel + 1 =>
    if digits % 10 = 0 then dropZeros (digits / 10) (exponent + 1) fuel else (digits, exponent)

/-- The shortest decimal number that reads back as the positive value `m * 2 ^ e`: no value of the
formats here needs more than 17 digits. -/
def Format.shortest (f : Format) (m : Nat) (e : Int) : Nat × Int :=
  let x := scaleDown m 1 (-e)
  let guess : Int := ((x.1.log2 : Int) - x.2.log2 - 1) * 30103 / 100000 - 1
  let (digits, exponent) := shortestFrom x (f.interval m e) (decimalPoint x guess 4) 1 18
  dropZeros digits exponent 18

structure Style where
  /-- The powers of ten of the leading digit that are written without an exponent: from the first
  and below the second, or all of them. -/
  positional : Option (Int × Int)
  /-- Whether a whole number keeps `.0`. -/
  keepsPoint : Bool

namespace Style

def plain : Style := ⟨none, false⟩

/-- Whole numbers keep a point, and exponents are used below 0.0001 and from 10 ^ 16 on. -/
def pointed : Style := ⟨some (-4, 16), true⟩

def positionalText (s : Style) (digits : Nat) (exponent : Int) : String :=
  let ds := Nat.toDigits 10 digits
  if 0 ≤ exponent then
    String.ofList (ds ++ List.replicate exponent.toNat '0') ++ (if s.keepsPoint then ".0" else "")
  else
    let places := (-exponent).toNat
    let ds := List.replicate (places + 1 - ds.length) '0' ++ ds
    String.ofList (ds.take (ds.length - places) ++ '.' :: ds.drop (ds.length - places))

def exponentText (digits : Nat) (exponent : Int) : String :=
  let ds := Nat.toDigits 10 digits
  let power : Int := exponent + (ds.length - 1 : Nat)
  let fraction := if ds.length ≤ 1 then [] else '.' :: ds.drop 1
  String.ofList (ds.take 1 ++ fraction) ++ "e" ++ toString power

def text (s : Style) (f : Format) : Binary → String
  | .nan => "NaN"
  | .infinite negative => if negative then "-inf" else "inf"
  | .finite negative m e =>
    let sign := if negative then "-" else ""
    if m = 0 then sign ++ s.positionalText 0 0
    else
      let (digits, exponent) := f.shortest m e
      let leading := exponent + (Nat.toDigits 10 digits).length - 1
      let positional := match s.positional with
        | none => true
        | some (low, high) => low ≤ leading && leading < high
      sign ++ (if positional then s.positionalText digits exponent
        else exponentText digits exponent)

end Style

end MeetingInsights.Number
