import MeetingInsights.Yaml.Scalar
import MeetingInsights.Yaml.Token

/-! # Reading tokens of YAML

One token after another is read off a text. Blocks show by indentation, so the columns of the open
blocks are kept. A key shows only by the colon behind it; until then it is kept as a candidate, with
the number of the token that it begins with, so that the tokens before it can be put in later.
-/

namespace MeetingInsights.Yaml

/-- The beginning of what may turn out to be a key. -/
structure Candidate where
  /-- Whether nothing but a key can stand there. -/
  isRequired : Bool
  /-- The number of tokens before it. -/
  number : Nat
  index : Nat
  line : Nat
  column : Nat
deriving DecidableEq, Repr, Inhabited

/-- The most characters of a key. -/
def maxKeyLength : Nat := 1024

structure Lexer where
  cursor : Cursor
  /-- The tokens so far, the last one first, and their number. -/
  tokens : List Token
  count : Nat
  /-- The column of the innermost block, -1 outside of all. -/
  indent : Int
  /-- The columns of the blocks around it, the innermost first. -/
  outer : List Int
  /-- The candidate for a key at the present level. -/
  candidate : Option Candidate
  /-- The candidates at the levels of flow collections around it, the innermost first. -/
  pending : List (Option Candidate)
  /-- Whether a key may begin here. -/
  allowsKey : Bool
deriving Repr, Inhabited

namespace Lexer

def start (cs : List Char) : Lexer where
  cursor := .start cs
  tokens := []
  count := 0
  indent := -1
  outer := []
  candidate := none
  pending := []
  allowsKey := true

def inFlow (l : Lexer) : Bool := !l.pending.isEmpty

def push (l : Lexer) (t : Token) : Lexer := { l with tokens := t :: l.tokens, count := l.count + 1 }

def insert (l : Lexer) (n : Nat) (t : Token) : Lexer :=
  { l with tokens := l.tokens.insertIdx (l.count - n) t, count := l.count + 1 }

def advance (l : Lexer) (n : Nat) : Lexer := { l with cursor := l.cursor.advance n }

/-- Closes the blocks that stand to the right of a column. -/
def closeBlocks (column : Int) (l : Lexer) : Lexer :=
  if l.inFlow then l else go l.outer l
where
  /-- Closes blocks, where `outer` holds those around the innermost. -/
  go (outer : List Int) (l : Lexer) : Lexer :=
    if column < l.indent then
      match outer with
      | i :: outer => go outer { l.push .blockEnd with indent := i, outer := outer }
      | [] => { l.push .blockEnd with indent := -1, outer := [] }
    else l

/-- Opens a block at a column unless one is open there already. -/
def openBlock (l : Lexer) (column : Nat) (number : Nat) (t : Token) : Lexer :=
  if !l.inFlow && l.indent < column then
    { l.insert number t with indent := column, outer := l.indent :: l.outer }
  else l

/-- Gives the candidate up. One that had to be a key is an error. -/
def dropCandidate? (l : Lexer) : Option Lexer :=
  match l.candidate with
  | some k => if k.isRequired then none else some { l with candidate := none }
  | none => some l

/-- Makes what begins here the candidate, if a key may begin here. -/
def setCandidate? (l : Lexer) : Option Lexer := do
  if l.allowsKey then
    let l ← l.dropCandidate?
    let c := l.cursor
    return { l with
      candidate := some ⟨!l.inFlow && l.indent == c.column, l.count, c.index, c.line, c.column⟩ }
  else return l

/-- Whether a candidate has ended with its line, or is too long. -/
def isStale (l : Lexer) (k : Candidate) : Bool :=
  k.line < l.cursor.line || k.index + maxKeyLength < l.cursor.index

/-- The candidate that can still be a key. A stale one that had to be a key is an error. -/
def freshCandidate? (l : Lexer) : Option (Option Candidate) :=
  match l.candidate with
  | none => some none
  | some k => if l.isStale k then if k.isRequired then none else some none else some (some k)

/-- Reads the handle of a tag. In a directive it has to end with an exclamation mark. -/
def tagHandle? (isDirective : Bool) (c : Cursor) : Option (List Char × Cursor) := do
  guard (c.sees '!')
  let word := (c.rest.drop 1).takeWhile isWordChar
  let after := c.advance (1 + word.length)
  if after.sees '!' then return ('!' :: word ++ ['!'], after.advance 1)
  guard (!(isDirective && !word.isEmpty))
  return ('!' :: word, after)

/-- Whether a character may stand in a tag. Some may do so only between angle brackets. -/
def isTagChar (isVerbatim : Bool) (ch : Char) : Bool :=
  isWordChar ch ||
    ch ∈ [';', '/', '?', ':', '@', '&', '=', '+', '$', '.', '!', '~', '*', '\'', '(', ')'] ||
    (isVerbatim && ch ∈ [',', '[', ']'])

/-- Reads the bytes that an escaped character of a tag stands for. -/
def tagByte? (c : Cursor) : Option (Nat × Cursor) := do
  guard (c.sees '%')
  let digits := (c.rest.drop 1).take 2
  guard (digits.length = 2)
  return (← Uuid.hexNumber? 0 digits, c.advance 3)

def tagBytes? (n : Nat) (c : Cursor) : (count : Nat) → Option (Nat × Cursor)
  | 0 => some (n, c)
  | count + 1 => do
    let (b, c) ← tagByte? c
    guard (b &&& 0xC0 = 0x80)
    tagBytes? (n * 64 + (b &&& 0x3F)) c count

def tagEscape? (c : Cursor) : Option (Char × Cursor) := do
  let (b, c) ← tagByte? c
  let (n, c) ←
    if b &&& 0x80 = 0 then some (b, c)
    else if b &&& 0xE0 = 0xC0 then tagBytes? (b &&& 0x1F) c 1
    else if b &&& 0xF0 = 0xE0 then tagBytes? (b &&& 0x0F) c 2
    else if b &&& 0xF8 = 0xF0 then tagBytes? (b &&& 0x07) c 3
    else none
  return (Char.ofNat n, c)

def tagChars? (isVerbatim : Bool) (text : List Char) (c : Cursor) :
    (fuel : Nat) → Option (List Char × Cursor)
  | 0 => some (text, c)
  | fuel + 1 =>
    match c.peek with
    | some ch =>
      if ch == '%' then
        match tagEscape? c with
        | some (e, c) => tagChars? isVerbatim (text ++ [e]) c fuel
        | none => none
      else if isTagChar isVerbatim ch then tagChars? isVerbatim (text ++ [ch]) (c.advance 1) fuel
      else some (text, c)
    | none => some (text, c)

/-- Reads the characters of a tag after those of its handle, of which the mark does not count. There
must be something to read or to begin with. -/
def tagText? (isVerbatim : Bool) (head : List Char) (c : Cursor) : Option (List Char × Cursor) := do
  let (text, c') ← tagChars? isVerbatim (head.drop 1) c c.rest.length
  guard (!head.isEmpty || c.rest.length != c'.rest.length)
  return (text, c')

def tag? (inFlow : Bool) (c : Cursor) : Option (Token × Cursor) := do
  let (handle, suffix, c) ←
    if c.peekAt 1 == some '<' then do
      let (suffix, c) ← tagText? true [] (c.advance 2)
      guard (c.sees '>')
      pure ([], suffix, c.advance 1)
    else do
      let (handle, c) ← tagHandle? false c
      if 1 < handle.length && handle.getLast? == some '!' then
        let (suffix, c) ← tagText? false [] c
        pure (handle, suffix, c)
      else
        let (suffix, c) ← tagText? false handle c
        pure (if suffix.isEmpty then ([], ['!'], c) else (['!'], suffix, c))
  guard (endsWord c.peek || (inFlow && c.sees ','))
  return (.tag (String.ofList handle) (String.ofList suffix), c)

/-- Reads the number of a version, of nine digits at most. -/
def versionNumber? (c : Cursor) : Option (Nat × Cursor) := do
  let digits := c.rest.takeWhile fun ch => '0' ≤ ch && ch ≤ '9'
  guard (!digits.isEmpty && digits.length ≤ 9)
  return (digits.foldl (fun n ch => n * 10 + (ch.toNat - '0'.toNat)) 0, c.advance digits.length)

def directive? (c : Cursor) : Option (Token × Cursor) := do
  let c := c.advance 1
  let name := c.rest.takeWhile isWordChar
  let c := c.advance name.length
  guard (!name.isEmpty && endsWord c.peek)
  let (t, c) ←
    if name = ['Y', 'A', 'M', 'L'] then do
      let (major, c) ← versionNumber? c.skipBlanks
      guard (c.sees '.')
      let (minor, c) ← versionNumber? (c.advance 1)
      pure (Token.versionDirective major minor, c)
    else if name = ['T', 'A', 'G'] then do
      let (handle, c) ← tagHandle? true c.skipBlanks
      guard (c.peek.any isBlank)
      let (stem, c) ← tagText? true [] c.skipBlanks
      guard (endsWord c.peek)
      pure (Token.tagDirective (String.ofList handle) (String.ofList stem), c)
    else none
  let c := c.skipBlanks
  let c := if c.sees '#' then c.skipToBreak else c
  guard (endsLine c.peek)
  return (t, c.skipBreak)

def anchorName? (c : Cursor) : Option (String × Cursor) := do
  let c := c.advance 1
  let name := c.rest.takeWhile isWordChar
  let c := c.advance name.length
  guard (!name.isEmpty)
  guard (endsWord c.peek || c.peek.any (· ∈ ['?', ':', ',', ']', '}', '%', '@', '\x60']))
  return (String.ofList name, c)

/-- Passes over white space, comments and line breaks. After a line break a key may begin, except in a
flow collection. A tab is white space only where no key may begin. -/
def skipSpace (l : Lexer) : (fuel : Nat) → Lexer
  | 0 => l
  | fuel + 1 =>
    let c := l.cursor
    let c := if c.column == 0 && c.sees '\ufeff' then c.advance 1 else c
    let tabs := l.inFlow || !l.allowsKey
    let c := c.skipWhile fun ch => ch == ' ' || (tabs && ch == '\t')
    let c := if c.sees '#' then c.skipToBreak else c
    if c.peek.any isBreak then
      skipSpace { l with cursor := c.skipBreak, allowsKey := l.allowsKey || !l.inFlow } fuel
    else { l with cursor := c }

def finish? (l : Lexer) : Option Lexer := do
  let l ← (l.closeBlocks (-1)).dropCandidate?
  return (l.push .streamEnd)

/-- Reads what stands outside of all blocks. -/
def outside? (l : Lexer) (t : Token) (c : Cursor) : Option Lexer := do
  let l ← (l.closeBlocks (-1)).dropCandidate?
  return { l with allowsKey := false, cursor := c }.push t

def openFlow? (l : Lexer) (t : Token) : Option Lexer := do
  let l ← l.setCandidate?
  return ({ l with pending := l.candidate :: l.pending, candidate := none, allowsKey := true }.push
    t).advance 1

def closeFlow? (l : Lexer) (t : Token) : Option Lexer := do
  let l ← l.dropCandidate?
  let l := match l.pending with
    | k :: pending => { l with candidate := k, pending }
    | [] => l
  return ({ l with allowsKey := false }.push t).advance 1

def flowEntry? (l : Lexer) : Option Lexer := do
  let l ← l.dropCandidate?
  return ({ l with allowsKey := true }.push .flowEntry).advance 1

def blockEntry? (l : Lexer) : Option Lexer := do
  guard (l.inFlow || l.allowsKey)
  let l := l.openBlock l.cursor.column l.count .blockSequenceStart
  let l ← l.dropCandidate?
  return ({ l with allowsKey := true }.push .blockEntry).advance 1

def key? (l : Lexer) : Option Lexer := do
  guard (l.inFlow || l.allowsKey)
  let l := l.openBlock l.cursor.column l.count .blockMappingStart
  let l ← l.dropCandidate?
  return ({ l with allowsKey := !l.inFlow }.push .key).advance 1

/-- Reads the colon before a value. The candidate is its key, if there is one. -/
def value? (l : Lexer) : Option Lexer := do
  match ← l.freshCandidate? with
  | some k =>
    let l := (l.insert k.number .key).openBlock k.column k.number .blockMappingStart
    return ({ l with candidate := none, allowsKey := false }.push .value).advance 1
  | none =>
    guard (l.inFlow || l.allowsKey)
    let l := l.openBlock l.cursor.column l.count .blockMappingStart
    return ({ l with candidate := none, allowsKey := !l.inFlow }.push .value).advance 1

def simple? (l : Lexer) (read : Cursor → Option (Token × Cursor)) : Option Lexer := do
  let l ← l.setCandidate?
  let (t, c) ← read l.cursor
  return { l with allowsKey := false, cursor := c }.push t

/-- Reads a plain scalar, after whose last line a key may begin. -/
def plainScalar? (l : Lexer) : Option Lexer := do
  let l ← l.setCandidate?
  let (text, hasBreak, c) ← plain? l.inFlow (l.indent + 1).toNat l.cursor
  return { l with allowsKey := hasBreak, cursor := c }.push (.scalar .plain (String.ofList text))

def blockScalar? (l : Lexer) (folds : Bool) : Option Lexer := do
  let l ← l.dropCandidate?
  let (text, c) ← block? folds l.indent l.cursor
  let style := if folds then Style.folded else .literal
  return { l with allowsKey := true, cursor := c }.push (.scalar style (String.ofList text))

def quotedToken? (single : Bool) (c : Cursor) : Option (Token × Cursor) := do
  let (text, c) ← quoted? single c
  return (.scalar (if single then .singleQuoted else .doubleQuoted) (String.ofList text), c)

def indicators : List Char :=
  ['-', '?', ':', ',', '[', ']', '{', '}', '#', '&', '*', '!', '|', '>', '\'', '"', '%', '@', '\x60']

def beginsPlain (l : Lexer) (ch : Char) : Bool :=
  let next := l.cursor.peekAt 1
  (!isBlank ch && !isBreak ch && !(ch ∈ indicators)) ||
    (ch == '-' && !next.any isBlank) ||
    (!l.inFlow && (ch == '?' || ch == ':') && !endsWord next)

def token? (l : Lexer) (ch : Char) : Option Lexer :=
  let c := l.cursor
  let standsAlone := endsWord (c.peekAt 1)
  if c.column == 0 && ch == '%' then do
    let l ← (l.closeBlocks (-1)).dropCandidate?
    let (t, c) ← directive? c
    return { l with allowsKey := false, cursor := c }.push t
  else if c.seesMarkerOf '-' then l.outside? .documentStart (c.advance 3)
  else if c.seesMarkerOf '.' then l.outside? .documentEnd (c.advance 3)
  else if ch == '[' then l.openFlow? .flowSequenceStart
  else if ch == '{' then l.openFlow? .flowMappingStart
  else if ch == ']' then l.closeFlow? .flowSequenceEnd
  else if ch == '}' then l.closeFlow? .flowMappingEnd
  else if ch == ',' then l.flowEntry?
  else if ch == '-' && standsAlone then l.blockEntry?
  else if ch == '?' && (l.inFlow || standsAlone) then l.key?
  else if ch == ':' && (l.inFlow || standsAlone) then l.value?
  else if ch == '*' then
    l.simple? fun c => (anchorName? c).map fun (name, c) => (.alias name, c)
  else if ch == '&' then
    l.simple? fun c => (anchorName? c).map fun (name, c) => (.anchor name, c)
  else if ch == '!' then l.simple? (tag? l.inFlow)
  else if ch == '|' && !l.inFlow then l.blockScalar? false
  else if ch == '>' && !l.inFlow then l.blockScalar? true
  else if ch == '\'' then l.simple? (quotedToken? true)
  else if ch == '"' then l.simple? (quotedToken? false)
  else if l.beginsPlain ch then l.plainScalar?
  else none

def run? (l : Lexer) : (fuel : Nat) → Option Lexer
  | 0 => none
  | fuel + 1 =>
    let l := l.skipSpace (l.cursor.rest.length + 1)
    let l := l.closeBlocks l.cursor.column
    match l.cursor.peek with
    | none => l.finish?
    | some ch =>
      match l.token? ch with
      | some l => l.run? fuel
      | none => none

end Lexer

def Token.ofText? (s : String) : Option (List Token) :=
  if s.toList.all isAllowed then
    ((Lexer.start s.toList).run? (s.toList.length + 1)).map fun l => l.tokens.reverse
  else none

end MeetingInsights.Yaml
