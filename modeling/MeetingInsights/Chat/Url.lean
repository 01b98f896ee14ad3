import MeetingInsights.Number.Decimal
import MeetingInsights.Text.Lowercase
import MeetingInsights.Uuid

/-! # Addresses on the web

Reading a URL the way browsers do and writing it in its normal form: letters of scheme and host in
lower case, characters outside a part's repertoire percent-encoded, dot segments resolved, and the
standard port left out.
-/

namespace MeetingInsights.Chat

/-- A URL in its normal form. A URL without a host has none for its connections to go to. -/
structure Url where
  scheme : String
  host : Option String
  port : Option Nat
  path : String
  query : Option String
  fragment : Option String
deriving DecidableEq, Repr, Inhabited

namespace Url

def bytes (c : Char) : List Nat := (String.ofList [c]).toUTF8.toList.map UInt8.toNat

def percentByte (n : Nat) : List Char :=
  '%' :: (Uuid.hexDigits 2 n).map Char.toUpper

/-- Percent-encodes the characters that are not ASCII graphics or that are in `reserved`. -/
def encode (reserved : List Char) (cs : List Char) : List Char :=
  cs.flatMap fun c =>
    if c.toNat ≤ 0x1F ∨ 0x7F ≤ c.toNat ∨ c ∈ reserved then (bytes c).flatMap percentByte else [c]

/-- What is encoded in a fragment, in a path, and in a query. -/
def fragmentReserved : List Char := [' ', '"', '<', '>', '\x60']
def pathReserved : List Char := fragmentReserved ++ ['#', '?', '{', '}']
def queryReserved : List Char := [' ', '"', '#', '<', '>']

/-- The characters that bytes encode, as far as each percent sign with two digits is one byte. -/
def decodeBytes : List Char → List Nat
  | '%' :: a :: b :: rest =>
    match Uuid.hexValue? a, Uuid.hexValue? b with
    | some x, some y => (x * 16 + y) :: decodeBytes rest
    | _, _ => bytes '%' ++ decodeBytes (a :: b :: rest)
  | c :: rest => bytes c ++ decodeBytes rest
  | [] => []

def standardPorts : List (String × Nat) :=
  [("http", 80), ("https", 443), ("ws", 80), ("wss", 443), ("ftp", 21)]

def isSpecial (scheme : String) : Bool := (standardPorts.lookup scheme).isSome || scheme == "file"

def isLetter (c : Char) : Bool := ('a' ≤ c && c ≤ 'z') || ('A' ≤ c && c ≤ 'Z')

def isSchemeChar (c : Char) : Bool :=
  isLetter c || Number.isDigit c || c == '+' || c == '-' || c == '.'

def scheme? (cs : List Char) : Option (String × List Char) :=
  match cs.dropWhile isSchemeChar with
  | ':' :: rest =>
    match cs.takeWhile isSchemeChar with
    | c :: name => if isLetter c then some (String.ofList ((c :: name).map Char.toLower), rest) else none
    | [] => none
  | _ => none

def splitAtAll (p : Char → Bool) : List Char → List (List Char)
  | [] => [[]]
  | c :: cs =>
    match splitAtAll p cs with
    | first :: rest => if p c then [] :: first :: rest else (c :: first) :: rest
    | [] => [[c]]

/-- A part of an IPv4 address: octal after a zero, hexadecimal after `0x`. -/
def ipv4Number? (cs : List Char) : Option Nat :=
  match cs with
  | [] => none
  | '0' :: 'x' :: rest | '0' :: 'X' :: rest =>
    if rest.isEmpty then some 0 else Number.naturalInBase? 16 rest
  | '0' :: d :: rest => Number.naturalInBase? 8 (d :: rest)
  | cs => Number.naturalInBase? 10 cs

def endsInNumber (parts : List (List Char)) : Bool :=
  let parts := if parts.getLast? = some [] ∧ 1 < parts.length then parts.dropLast else parts
  match parts.getLast? with
  | some last => (!last.isEmpty && last.all Number.isDigit) || (ipv4Number? last).isSome
  | none => false

/-- The number of an IPv4 address, whose last part fills the bytes that the others leave. -/
def ipv4? (parts : List (List Char)) : Option Nat := do
  let parts := if parts.getLast? = some [] ∧ 1 < parts.length then parts.dropLast else parts
  guard (parts.length ≤ 4)
  let numbers ← parts.mapM ipv4Number?
  let last ← numbers.getLast?
  let others := numbers.dropLast
  guard (others.all (· ≤ 255) && last < Nat.pow 256 (5 - numbers.length))
  let (n, _) := others.foldl (fun (n, k) b => (n + b * Nat.pow 256 k, k - 1)) (0, 3)
  return n + last

def ipv4Text (n : Nat) : String :=
  String.intercalate "." ([n >>> 24 % 256, n >>> 16 % 256, n >>> 8 % 256, n % 256].map toString)

/-- The eight numbers of an IPv6 address, of which `::` fills in zeros. -/
def ipv6? (cs : List Char) : Option (List Nat) := do
  let pieces (cs : List Char) : Option (List Nat) :=
    if cs.isEmpty then some []
    else
      let parts := splitAtAll (· == ':') cs
      let piece (p : List Char) : Option Nat :=
        if p.isEmpty ∨ 4 < p.length then none else Number.naturalInBase? 16 p
      match parts.getLast? with
      | some last =>
        if last.contains '.' then do
          let quads ← (splitAtAll (· == '.') last).mapM fun q =>
            if q.isEmpty ∨ 3 < q.length ∨ (1 < q.length ∧ q.head? = some '0') then none
            else (Number.naturalInBase? 10 q).filter (· ≤ 255)
          match quads with
          | [a, b, c, d] =>
            return (← parts.dropLast.mapM piece) ++ [a * 256 + b, c * 256 + d]
          | _ => none
        else parts.mapM piece
      | none => none
  match splitDouble cs with
  | none =>
    let ns ← pieces cs
    guard (ns.length = 8)
    return ns
  | some (left, right) =>
    let a ← pieces left
    let b ← pieces right
    guard (a.length + b.length ≤ 7)
    return a ++ List.replicate (8 - a.length - b.length) 0 ++ b
where
  /-- Splits at the first double colon. -/
  splitDouble : List Char → Option (List Char × List Char)
    | ':' :: ':' :: rest => some ([], rest)
    | c :: rest => (splitDouble rest).map fun (a, b) => (c :: a, b)
    | [] => none

/-- The start and length of the first longest run of zeros, if it is longer than one. -/
def longestZeros (ns : List Nat) : Option (Nat × Nat) :=
  let run (i : Nat) : Nat := ((ns.drop i).takeWhile (· == 0)).length
  (List.range ns.length).foldl
    (fun best i =>
      let n := run i
      match best with
      | some (_, m) => if m < n then some (i, n) else best
      | none => if 1 < n then some (i, n) else none)
    none

def ipv6Text (ns : List Nat) : String :=
  let hex (n : Nat) : String := String.ofList (Nat.toDigits 16 n)
  let join (ns : List Nat) : String := String.intercalate ":" (ns.map hex)
  match longestZeros ns with
  | some (i, n) => "[" ++ join (ns.take i) ++ "::" ++ join (ns.drop (i + n)) ++ "]"
  | none => "[" ++ join ns ++ "]"

def hostForbidden : List Char :=
  ['\x00', '\t', '\n', '\r', ' ', '#', '/', ':', '<', '>', '?', '@', '[', '\\', ']', '^', '|']

def isDomainChar (c : Char) : Bool :=
  !(c ∈ hostForbidden || c == '%' || c.toNat < 0x20 || c.toNat == 0x7F)

/-- The bias of a label's encoding after one of its insertions. -/
def adapt (delta points : Nat) (first : Bool) : Nat :=
  let delta := if first then delta / 700 else delta / 2
  shrink (delta + delta / points) 0 32
where
  /-- Divides by 35 until the rest is small. -/
  shrink (delta k : Nat) : (fuel : Nat) → Nat
    | 0 => k
    | fuel + 1 => if 455 < delta then shrink (delta / 35) (k + 36) fuel else k + 36 * delta / (delta + 38)

def variableDigits (q bias k : Nat) : (fuel : Nat) → List Char
  | 0 => []
  | fuel + 1 =>
    let t := if k ≤ bias then 1 else if bias + 26 ≤ k then 26 else k - bias
    let digit (d : Nat) : Char := if d < 26 then Char.ofNat ('a'.toNat + d) else Char.ofNat ('0'.toNat + d - 26)
    if q < t then [digit q]
    else digit (t + (q - t) % (36 - t)) :: variableDigits ((q - t) / (36 - t)) bias (k + 36) fuel

/-- Encodes the characters of a label that are not ASCII, the least code point first. -/
def insertions (cs : List Nat) (n delta bias handled basic : Nat) : (fuel : Nat) → List Char
  | 0 => []
  | fuel + 1 =>
    match (cs.filter (n ≤ ·)).min? with
    | none => []
    | some m =>
      let delta := delta + (m - n) * (handled + 1)
      let (text, delta, bias, handled) := cs.foldl
        (fun (text, delta, bias, handled) c =>
          if c < m then (text, delta + 1, bias, handled)
          else if c = m then
            (text ++ variableDigits delta bias 36 64, 0,
              adapt delta (handled + 1) (handled == basic), handled + 1)
          else (text, delta, bias, handled))
        (([] : List Char), delta, bias, handled)
      text ++ insertions cs (m + 1) (delta + 1) bias handled basic fuel

def asciiLabel (cs : List Char) : List Char :=
  if cs.all fun c => c.toNat < 0x80 then cs
  else
    let basic := cs.filter fun c => c.toNat < 0x80
    let head := if basic.isEmpty then [] else basic ++ ['-']
    ['x', 'n', '-', '-'] ++ head ++
      insertions (cs.map Char.toNat) 128 0 72 basic.length basic.length cs.length

def specialHost? (cs : List Char) : Option String := do
  let decoded ← String.fromUTF8? ⟨((decodeBytes cs).map UInt8.ofNat).toArray⟩
  let parts := (splitAtAll (fun c => c == '.' || c == '。') (Text.lowerChars decoded.toList)).map
    asciiLabel
  let name := List.intercalate ['.'] parts
  guard (!name.isEmpty && name.all isDomainChar)
  if endsInNumber parts then return ipv4Text (← ipv4? parts)
  return String.ofList name

/-- The normal form of a host: an IPv6 address in brackets, a name, or what stands for one in a
scheme without rules of its own. -/
def host? (special : Bool) (cs : List Char) : Option String :=
  match cs with
  | '[' :: rest =>
    if rest.getLast? = some ']' then (ipv6? rest.dropLast).map ipv6Text else none
  | cs =>
    if special then specialHost? cs
    else if cs.any (· ∈ hostForbidden) then none
    else some (String.ofList (encode [] cs))

def isSingleDot (seg : List Char) : Bool :=
  seg.map Char.toLower ∈ [['.'], ['%', '2', 'e']]

def isDoubleDot (seg : List Char) : Bool :=
  seg.map Char.toLower ∈
    [['.', '.'], ['.', '%', '2', 'e'], ['%', '2', 'e', '.'], ['%', '2', 'e', '%', '2', 'e']]

/-- Resolves dot segments after the segments `done`, which are given last first. -/
def resolveSegments (done : List (List Char)) : List (List Char) → List (List Char)
  | [] => done.reverse
  | [seg] =>
    if isDoubleDot seg then (done.drop 1).reverse ++ [[]]
    else if isSingleDot seg then done.reverse ++ [[]]
    else done.reverse ++ [seg]
  | seg :: rest =>
    if isDoubleDot seg then resolveSegments (done.drop 1) rest
    else if isSingleDot seg then resolveSegments done rest
    else resolveSegments (seg :: done) rest

/-- The normal form of a path, given without its first slash. -/
def pathText (special : Bool) (cs : List Char) : String :=
  let isSlash (c : Char) : Bool := c == '/' || (special && c == '\\')
  let segments := (splitAtAll isSlash cs).map (encode pathReserved)
  String.ofList ((resolveSegments [] segments).flatMap ('/' :: ·))

def splitFirst (p : Char → Bool) (cs : List Char) : List Char × Option (List Char) :=
  match cs.dropWhile fun c => !p c with
  | _ :: rest => (cs.takeWhile fun c => !p c, some rest)
  | [] => (cs, none)

/-- Splits an authority into its host and its port; what stands before an at sign is dropped. -/
def splitAuthority (cs : List Char) : List Char × Option (List Char) :=
  let cs := ((cs.reverse.takeWhile (· != '@')).reverse)
  let tail := (cs.reverse.takeWhile fun c => c != ':' && c != ']').reverse
  if tail.length < cs.length ∧ cs[cs.length - tail.length - 1]? = some ':' then
    (cs.take (cs.length - tail.length - 1), some tail)
  else (cs, none)

def port? (scheme : String) : Option (List Char) → Option (Option Nat)
  | none | some [] => some none
  | some ds =>
    if ds.all Number.isDigit then
      let n := Number.digitsValue 0 ds
      if Nat.pow 2 16 ≤ n then none
      else if standardPorts.lookup scheme = some n then some none
      else some (some n)
    else none

/-- Reads what follows the scheme of an address with an authority, which begins after its slashes. -/
def ofAuthority? (scheme : String) (special : Bool) (cs : List Char) (query fragment : Option String) :
    Option Url := do
  let isSlash (c : Char) : Bool := c == '/' || (special && c == '\\')
  let (authority, path) := splitFirst isSlash cs
  let (hostPart, portPart) := splitAuthority authority
  let port ← port? scheme portPart
  if hostPart.isEmpty then
    guard (!special && portPart.isNone && authority.isEmpty)
    return ⟨scheme, some "", none, (path.map (pathText special)).getD "", query, fragment⟩
  let host ← host? special hostPart
  let path := match path with
    | some cs => pathText special cs
    | none => if special then "/" else ""
  return ⟨scheme, some host, port, path, query, fragment⟩

def isPassedOver (c : Char) : Bool := c == '\t' || c == '\n' || c == '\r'

def trimControls (cs : List Char) : List Char :=
  let isControl (c : Char) : Bool := c.toNat ≤ 0x20
  ((cs.dropWhile isControl).reverse.dropWhile isControl).reverse

def ofChars? (cs : List Char) : Option Url := do
  let cs := (trimControls cs).filter fun c => !isPassedOver c
  let (scheme, rest) ← scheme? cs
  let special := isSpecial scheme
  let (rest, fragment) := splitFirst (· == '#') rest
  let (rest, query) := splitFirst (· == '?') rest
  let quoted := if special then '\'' :: queryReserved else queryReserved
  let query := query.map fun q => String.ofList (encode quoted q)
  let fragment := fragment.map fun f => String.ofList (encode fragmentReserved f)
  if scheme = "file" then
    return ⟨scheme, some "", none, pathText true (rest.dropWhile fun c => c == '/' || c == '\\'), query,
      fragment⟩
  else if special then
    ofAuthority? scheme true (rest.dropWhile fun c => c == '/' || c == '\\') query fragment
  else
    match rest with
    | '/' :: '/' :: rest => ofAuthority? scheme false rest query fragment
    | '/' :: rest => return ⟨scheme, none, none, pathText false rest, query, fragment⟩
    | rest => return ⟨scheme, none, none, String.ofList (encode [] rest), query, fragment⟩

def parse? (s : String) : Option Url := ofChars? s.toList

def toText (u : Url) : String :=
  let authority := match u.host with
    | some h => "//" ++ h ++ ((u.port.map fun n => ":" ++ toString n).getD "")
    | none => ""
  u.scheme ++ ":" ++ authority ++ u.path ++ ((u.query.map ("?" ++ ·)).getD "") ++
    ((u.fragment.map ("#" ++ ·)).getD "")

def hasHost (u : Url) : Bool := u.host.any fun h => !h.isEmpty

def isWeb (u : Url) : Bool := u.scheme == "http" || u.scheme == "https"

end Url

end MeetingInsights.Chat
