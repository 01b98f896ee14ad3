import MeetingInsights.Json.Doc

/-! # Reading JSON

The grammar of JSON over a list of characters: each reader returns what it has read and the
characters after it. The fuel bounds the nesting of calls; a text never needs more than
`Doc.parse?` provides, since two calls consume at least one character.
-/

namespace MeetingInsights.Json

open Number (isDigit digitsValue)

def isSpace (c : Char) : Bool := c == ' ' || c == '\t' || c == '\n' || c == '\r'

def skipSpace (cs : List Char) : List Char := cs.dropWhile isSpace

def hexValue? (c : Char) : Option Nat :=
  if isDigit c then some (c.toNat - '0'.toNat)
  else if 'a' ≤ c ∧ c ≤ 'f' then some (c.toNat - 'a'.toNat + 10)
  else if 'A' ≤ c ∧ c ≤ 'F' then some (c.toNat - 'A'.toNat + 10)
  else none

def unit? (a b c d : Char) : Option Nat := do
  let a ← hexValue? a
  let b ← hexValue? b
  let c ← hexValue? c
  let d ← hexValue? d
  return ((a * 16 + b) * 16 + c) * 16 + d

def escaped? (c : Char) : Option Char :=
  match c with
  | '"' => some '"'
  | '\\' => some '\\'
  | '/' => some '/'
  | 'b' => some '\x08'
  | 'f' => some '\x0c'
  | 'n' => some '\n'
  | 'r' => some '\r'
  | 't' => some '\t'
  | _ => none

/-- Reads the rest of a string literal, its opening quote being read. -/
def literal? : List Char → Option (Literal × List Char)
  | [] => none
  | '"' :: rest => some ([], rest)
  | '\\' :: 'u' :: a :: b :: c :: d :: rest => do
    let n ← unit? a b c d
    let (s, rest) ← literal? rest
    return (.unit n :: s, rest)
  | '\\' :: c :: rest => do
    let e ← escaped? c
    let (s, rest) ← literal? rest
    return (.char e :: s, rest)
  | c :: rest =>
    if c.toNat < 0x20 ∨ c = '\\' then none
    else (literal? rest).map fun (s, rest) => (.char c :: s, rest)

/-- Reads the digits before the point: a zero alone, or digits that begin with another. -/
def wholePart? (cs : List Char) : Option (List Char × List Char) :=
  match cs with
  | '0' :: rest =>
    match rest with
    | c :: _ => if isDigit c then none else some (['0'], rest)
    | [] => some (['0'], rest)
  | cs =>
    let ds := cs.takeWhile isDigit
    if ds.isEmpty then none else some (ds, cs.dropWhile isDigit)

def fractionPart? (cs : List Char) : Option (Option (List Char) × List Char) :=
  match cs with
  | '.' :: rest =>
    let ds := rest.takeWhile isDigit
    if ds.isEmpty then none else some (some ds, rest.dropWhile isDigit)
  | cs => some (none, cs)

def exponentPart? (cs : List Char) : Option (Option Int × List Char) :=
  match cs with
  | c :: rest =>
    if c = 'e' ∨ c = 'E' then
      let (negative, rest) := Number.takeSign rest
      let ds := rest.takeWhile isDigit
      let n : Int := digitsValue 0 ds
      if ds.isEmpty then none
      else some (some (if negative then -n else n), rest.dropWhile isDigit)
    else some (none, cs)
  | [] => some (none, [])

/-- Reads a number without its minus sign. -/
def numeral? (negative : Bool) (cs : List Char) : Option (Numeral × List Char) := do
  let (whole, cs) ← wholePart? cs
  let (fraction, cs) ← fractionPart? cs
  let (power, cs) ← exponentPart? cs
  return (⟨negative, whole, fraction, power⟩, cs)

def dropWord? (word : List Char) (cs : List Char) : Option (List Char) :=
  if word.isPrefixOf cs then some (cs.drop word.length) else none

mutual

def value? : (fuel : Nat) → List Char → Option (Doc × List Char)
  | 0, _ => none
  | fuel + 1, cs =>
    match skipSpace cs with
    | '"' :: rest => (literal? rest).map fun (s, rest) => (.string s, rest)
    | '[' :: rest =>
      match skipSpace rest with
      | ']' :: rest => some (.array [], rest)
      | rest => (elements? fuel rest).map fun (ds, rest) => (.array ds, rest)
    | '{' :: rest =>
      match skipSpace rest with
      | '}' :: rest => some (.object [], rest)
      | rest => (members? fuel rest).map fun (ms, rest) => (.object ms, rest)
    | '-' :: rest => (numeral? true rest).map fun (n, rest) => (.number n, rest)
    | 'n' :: rest => (dropWord? ['u', 'l', 'l'] rest).map fun rest => (.null, rest)
    | 't' :: rest => (dropWord? ['r', 'u', 'e'] rest).map fun rest => (.bool true, rest)
    | 'f' :: rest => (dropWord? ['a', 'l', 's', 'e'] rest).map fun rest => (.bool false, rest)
    | cs => (numeral? false cs).map fun (n, rest) => (.number n, rest)

/-- Reads at least one element, and the bracket that closes the array. -/
def elements? : (fuel : Nat) → List Char → Option (List Doc × List Char)
  | 0, _ => none
  | fuel + 1, cs =>
    match value? fuel cs with
    | none => none
    | some (d, rest) =>
      match skipSpace rest with
      | ']' :: rest => some ([d], rest)
      | ',' :: rest => (elements? fuel rest).map fun (ds, rest) => (d :: ds, rest)
      | _ => none

/-- Reads at least one member, and the brace that closes the object. -/
def members? : (fuel : Nat) → List Char → Option (List (Literal × Doc) × List Char)
  | 0, _ => none
  | fuel + 1, cs =>
    match skipSpace cs with
    | '"' :: rest =>
      match literal? rest with
      | none => none
      | some (k, rest) =>
        match skipSpace rest with
        | ':' :: rest =>
          match value? fuel rest with
          | none => none
          | some (d, rest) =>
            match skipSpace rest with
            | '}' :: rest => some ([(k, d)], rest)
            | ',' :: rest => (members? fuel rest).map fun (ms, rest) => ((k, d) :: ms, rest)
            | _ => none
        | _ => none
    | _ => none

end

def Doc.ofChars? (cs : List Char) : Option Doc :=
  match value? (2 * cs.length + 2) cs with
  | some (d, rest) => if (skipSpace rest).isEmpty then some d else none
  | none => none

/-- Reads a document that makes up all of a text but white space. -/
def Doc.parse? (s : String) : Option Doc := Doc.ofChars? s.toList

end MeetingInsights.Json
