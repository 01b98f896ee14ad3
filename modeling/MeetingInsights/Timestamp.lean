import MeetingInsights.Text.Blank

/-! # Points in time

A UTC date and time of day to the nanosecond, the RFC 3339 text it is written as, and the relaxed
RFC 3339 reading that also takes offsets from UTC. A leap second is kept as nanoseconds past the
last second of its minute.
-/

namespace MeetingInsights

def isLeapYear (year : Int) : Bool :=
  year % 4 == 0 && (year % 100 != 0 || year % 400 == 0)

def daysInMonth (year : Int) (month : Nat) : Nat :=
  if month = 2 then if isLeapYear year then 29 else 28
  else if month = 4 ∨ month = 6 ∨ month = 9 ∨ month = 11 then 30
  else 31

structure Timestamp where
  year : Int
  month : Nat
  day : Nat
  hour : Nat
  minute : Nat
  second : Nat
  /-- Nanoseconds of the second; a leap second continues the count past one second. -/
  nano : Nat
deriving DecidableEq, Repr, Inhabited

namespace Timestamp

/-- The least and the greatest year a date may have. -/
def minYear : Int := -262143
def maxYear : Int := 262142

/-- A date of the calendar and a time of the day. -/
structure Valid (t : Timestamp) : Prop where
  year : minYear ≤ t.year ∧ t.year ≤ maxYear
  month : 1 ≤ t.month ∧ t.month ≤ 12
  day : 1 ≤ t.day ∧ t.day ≤ daysInMonth t.year t.month
  hour : t.hour ≤ 23
  minute : t.minute ≤ 59
  second : t.second ≤ 59
  nano : t.nano < 1000000000 ∨ t.second = 59 ∧ t.nano < 2000000000

def nextDay (t : Timestamp) : Timestamp :=
  if t.day < daysInMonth t.year t.month then { t with day := t.day + 1 }
  else if t.month < 12 then { t with month := t.month + 1, day := 1 }
  else { t with year := t.year + 1, month := 1, day := 1 }

def previousDay (t : Timestamp) : Timestamp :=
  if 1 < t.day then { t with day := t.day - 1 }
  else if 1 < t.month then
    { t with month := t.month - 1, day := daysInMonth t.year (t.month - 1) }
  else { t with year := t.year - 1, month := 12, day := 31 }

/-- The point in time that a clock `offset` minutes ahead of UTC shows as `t`, for an offset of less
than one day. -/
def fromOffset (t : Timestamp) (offset : Int) : Timestamp :=
  let minutes := (t.hour * 60 + t.minute : Int) - offset
  let set (t : Timestamp) (m : Nat) : Timestamp := { t with hour := m / 60, minute := m % 60 }
  if minutes < 0 then set t.previousDay (minutes + 1440).toNat
  else if 1440 ≤ minutes then set t.nextDay (minutes - 1440).toNat
  else set t minutes.toNat

def le (a b : Timestamp) : Bool :=
  let key (t : Timestamp) : List Int := [t.year, t.month, t.day, t.hour, t.minute, t.second, t.nano]
  !(key b).lex (key a)

def padded (width n : Nat) : List Char :=
  let ds := Nat.toDigits 10 n
  List.replicate (width - ds.length) '0' ++ ds

/-- A year of four digits stands alone and any other carries its sign. -/
def yearText (year : Int) : List Char :=
  if 0 ≤ year ∧ year ≤ 9999 then padded 4 year.toNat
  else if year < 0 then '-' :: padded 4 year.natAbs
  else '+' :: padded 4 year.toNat

/-- The fraction of a second with as few of 0, 3, 6 or 9 digits as hold it. -/
def fractionText (nano : Nat) : List Char :=
  if nano = 0 then []
  else if nano % 1000000 = 0 then '.' :: padded 3 (nano / 1000000)
  else if nano % 1000 = 0 then '.' :: padded 6 (nano / 1000)
  else '.' :: padded 9 nano

def toChars (t : Timestamp) : List Char :=
  let leap := t.nano / 1000000000
  yearText t.year ++ '-' :: padded 2 t.month ++ '-' :: padded 2 t.day ++
    'T' :: padded 2 t.hour ++ ':' :: padded 2 t.minute ++ ':' :: padded 2 (t.second + leap) ++
    fractionText (t.nano % 1000000000) ++ ['Z']

/-- The RFC 3339 text with `Z`. -/
def toText (t : Timestamp) : String := String.ofList t.toChars

def isDigit (c : Char) : Bool := '0' ≤ c && c ≤ '9'

def number (ds : List Char) : Nat := ds.foldl (fun n c => n * 10 + (c.toNat - '0'.toNat)) 0

/-- Reads at least one and at most `width` digits. -/
def digits? (width : Nat) (cs : List Char) : Option (Nat × List Char) :=
  let ds := (cs.take width).takeWhile isDigit
  if ds.isEmpty then none else some (number ds, cs.drop ds.length)

def field? (width : Nat) (cs : List Char) : Option (Nat × List Char) :=
  digits? width (Text.trimLeft cs)

def mark? (c : Char) (cs : List Char) : Option (List Char) :=
  match Text.trimLeft cs with
  | d :: rest => if d = c then some rest else none
  | [] => none

/-- Reads a year: four digits at most, or any number of them after a sign. -/
def year? (cs : List Char) : Option (Int × List Char) :=
  match Text.trimLeft cs with
  | '-' :: rest => (digits? rest.length rest).map fun (n, rest) => (-(n : Int), rest)
  | '+' :: rest => (digits? rest.length rest).map fun (n, rest) => ((n : Int), rest)
  | cs => (digits? 4 cs).map fun (n, rest) => ((n : Int), rest)

/-- Reads the nanoseconds of an optional fraction; digits past the ninth are dropped. -/
def fraction? (cs : List Char) : Option (Nat × List Char) :=
  match cs with
  | '.' :: rest => do
    let (n, after) ← digits? 9 rest
    return (n * Nat.pow 10 (9 - (rest.length - after.length)), after.dropWhile isDigit)
  | _ => some (0, cs)

def separator? : List Char → Option (List Char)
  | c :: rest => if c = 't' ∨ c = 'T' ∨ c = ' ' then some rest else none
  | [] => none

/-- Reads `hh:mm` of an offset, where colons and white space between the two are optional. -/
def offsetSize? (cs : List Char) : Option (Nat × List Char) :=
  match cs with
  | h₁ :: h₂ :: rest =>
    if isDigit h₁ && isDigit h₂ then
      match rest.dropWhile fun c => c == ':' || Text.isBlank c with
      | m₁ :: m₂ :: rest =>
        if isDigit m₁ && isDigit m₂ && m₁ ≤ '5' then
          some (number [h₁, h₂] * 60 + number [m₁, m₂], rest)
        else none
      | _ => none
    else none
  | _ => none

def offset? (cs : List Char) : Option (Int × List Char) :=
  if (cs.take 3).map Char.toUpper = ['U', 'T', 'C'] then some (0, cs.drop 3)
  else
    match cs with
    | 'Z' :: rest | 'z' :: rest => some (0, rest)
    | '+' :: rest => (offsetSize? rest).map fun (n, rest) => ((n : Int), rest)
    | '-' :: rest | '−' :: rest => (offsetSize? rest).map fun (n, rest) => (-(n : Int), rest)
    | _ => none

instance (t : Timestamp) : Decidable t.Valid :=
  if h : (minYear ≤ t.year ∧ t.year ≤ maxYear) ∧ (1 ≤ t.month ∧ t.month ≤ 12) ∧
      (1 ≤ t.day ∧ t.day ≤ daysInMonth t.year t.month) ∧ t.hour ≤ 23 ∧ t.minute ≤ 59 ∧
      t.second ≤ 59 ∧ (t.nano < 1000000000 ∨ t.second = 59 ∧ t.nano < 2000000000) then
    isTrue ⟨h.1, h.2.1, h.2.2.1, h.2.2.2.1, h.2.2.2.2.1, h.2.2.2.2.2.1, h.2.2.2.2.2.2⟩
  else isFalse fun v => h ⟨v.year, v.month, v.day, v.hour, v.minute, v.second, v.nano⟩

/-- Reads a point in time. The date, the time and the offset must each exist. -/
def ofChars? (cs : List Char) : Option Timestamp := do
  let (year, cs) ← year? cs
  let (month, cs) ← field? 2 (← mark? '-' cs)
  let (day, cs) ← field? 2 (← mark? '-' cs)
  let (hour, cs) ← field? 2 (← separator? cs)
  let (minute, cs) ← field? 2 (← mark? ':' cs)
  let (second, cs) ← field? 2 (← mark? ':' cs)
  let (nano, cs) ← fraction? cs
  let (offset, cs) ← offset? (Text.trimLeft cs)
  let local' : Timestamp :=
    if second = 60 then ⟨year, month, day, hour, minute, 59, nano + 1000000000⟩
    else ⟨year, month, day, hour, minute, second, nano⟩
  guard (Text.trimLeft cs).isEmpty
  guard (local'.Valid ∧ offset.natAbs < 1440)
  let t := local'.fromOffset offset
  guard t.Valid
  return t

def parse? (s : String) : Option Timestamp := ofChars? s.toList

/-- The date `days` days after 1 January 1970, at midnight. -/
def ofDays (days : Int) : Timestamp :=
  let shifted := days + 719468
  let era := shifted / 146097
  let dayOfEra := (shifted % 146097).toNat
  let yearOfEra := (dayOfEra - dayOfEra / 1460 + dayOfEra / 36524 - dayOfEra / 146096) / 365
  let dayOfYear := dayOfEra - (365 * yearOfEra + yearOfEra / 4 - yearOfEra / 100)
  let shiftedMonth := (5 * dayOfYear + 2) / 153
  let day := dayOfYear - (153 * shiftedMonth + 2) / 5 + 1
  let month := if shiftedMonth < 10 then shiftedMonth + 3 else shiftedMonth - 9
  let year := era * 400 + yearOfEra + (if month ≤ 2 then 1 else 0)
  ⟨year, month, day, 0, 0, 0, 0⟩

/-- The point in time `nanos` nanoseconds after the start of 1970. -/
def ofUnixNanos (nanos : Nat) : Timestamp :=
  let seconds := nanos / 1000000000
  let ofDay := seconds % 86400
  { ofDays (seconds / 86400 : Nat) with
    hour := ofDay / 3600, minute := ofDay / 60 % 60, second := ofDay % 60,
    nano := nanos % 1000000000 }

end Timestamp

end MeetingInsights
