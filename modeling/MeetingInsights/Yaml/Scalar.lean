import MeetingInsights.Uuid
import MeetingInsights.Yaml.Cursor

/-! # Scalars of YAML

Reading the text of a plain, a quoted or a block scalar. Lines are folded: a single line break stands
for a space, and further ones stand for themselves. Each loop is given as much fuel as there are
characters left, since every round of it passes over one.
-/

namespace MeetingInsights.Yaml

/-- White space that may turn out to lie between two words of a scalar: the spaces before the first
line break, what that break stands for, and what the later ones stand for. -/
structure Gap where
  spaces : List Char
  first : Option (List Char)
  more : List Char
deriving DecidableEq, Repr, Inhabited

namespace Gap

def none : Gap := ⟨[], .none, []⟩

def escapedBreak : Gap := ⟨[], some [], []⟩

def hasBreak (g : Gap) : Bool := g.first.isSome

def text (g : Gap) : List Char :=
  match g.first with
  | .none => g.spaces
  | some first =>
    if first = ['\n'] then if g.more.isEmpty then [' '] else g.more else first ++ g.more

/-- Adds a space or a tab; those at the beginning of a line do not count. -/
def addBlank (g : Gap) (ch : Char) : Gap :=
  if g.hasBreak then g else { g with spaces := g.spaces ++ [ch] }

def addBreak (g : Gap) (text : List Char) : Gap :=
  if g.hasBreak then { g with more := g.more ++ text } else ⟨[], some text, []⟩

/-- Reads white space. A tab among the first `indent` columns of a line is refused. -/
def read (indent : Nat) (g : Gap) (c : Cursor) : (fuel : Nat) → Option (Gap × Cursor)
  | 0 => some (g, c)
  | fuel + 1 =>
    match c.peek with
    | some ch =>
      if isBlank ch then
        if g.hasBreak && c.column < indent && ch == '\t' then .none
        else read indent (g.addBlank ch) (c.advance 1) fuel
      else if isBreak ch then
        let (text, c) := c.takeBreak
        read indent (g.addBreak text) c fuel
      else some (g, c)
    | .none => some (g, c)

end Gap

def isFlowMark (ch : Char) : Bool := ch == ',' || ch == '[' || ch == ']' || ch == '{' || ch == '}'

/-- The length of the next word of a plain scalar. Inside a flow collection, a colon before another
mark is refused. -/
def wordLength? (inFlow : Bool) : List Char → Option Nat
  | [] => some 0
  | ch :: rest =>
    if isBlank ch || isBreak ch then some 0
    else if inFlow && ch == ':' && rest.head?.any (fun d => isFlowMark d || d == '?') then none
    else if (ch == ':' && endsWord rest.head?) || (inFlow && isFlowMark ch) then some 0
    else (wordLength? inFlow rest).map (· + 1)

/-- Reads words and white space on to the end of a plain scalar; the flag tells whether a line ends in
the white space after it. -/
def plainFrom (inFlow : Bool) (indent : Nat) (text : List Char) (gap : Gap) (c : Cursor) :
    (fuel : Nat) → Option (List Char × Bool × Cursor)
  | 0 => some (text, gap.hasBreak, c)
  | fuel + 1 =>
    if c.seesMarker || c.sees '#' then some (text, gap.hasBreak, c)
    else
      match wordLength? inFlow c.rest with
      | none => none
      | some n =>
        let (text, gap) :=
          if n = 0 then (text, gap) else (text ++ gap.text ++ c.rest.take n, Gap.none)
        let c := c.advance n
        if !c.peek.any fun ch => isBlank ch || isBreak ch then some (text, gap.hasBreak, c)
        else
          match gap.read indent c c.rest.length with
          | none => none
          | some (gap, c) =>
            if !inFlow && c.column < indent then some (text, gap.hasBreak, c)
            else plainFrom inFlow indent text gap c fuel

/-- Reads a plain scalar, whose lines must be indented by `indent` columns. -/
def plain? (inFlow : Bool) (indent : Nat) (c : Cursor) : Option (List Char × Bool × Cursor) :=
  plainFrom inFlow indent [] .none c (c.rest.length + 1)

def escape? (ch : Char) : Option Char :=
  match ch with
  | '0' => some '\x00'
  | 'a' => some '\x07'
  | 'b' => some '\x08'
  | 't' | '\t' => some '\t'
  | 'n' => some '\n'
  | 'v' => some '\x0b'
  | 'f' => some '\x0c'
  | 'r' => some '\r'
  | 'e' => some '\x1b'
  | ' ' => some ' '
  | '"' => some '"'
  | '/' => some '/'
  | '\\' => some '\\'
  | 'N' => some '\u0085'
  | '_' => some '\u00a0'
  | 'L' => some '\u2028'
  | 'P' => some '\u2029'
  | _ => none

def escapeWidth? (ch : Char) : Option Nat :=
  match ch with
  | 'x' => some 2
  | 'u' => some 4
  | 'U' => some 8
  | _ => none

def charOf? (n : Nat) : Option Char :=
  if (0xD800 ≤ n ∧ n ≤ 0xDFFF) ∨ 0x10FFFF < n then none else some (Char.ofNat n)

def escaped? (c : Cursor) : Option (Char × Cursor) := do
  let ch ← c.peek
  match escapeWidth? ch with
  | some width =>
    let digits := (c.rest.drop 1).take width
    guard (digits.length = width)
    let n ← Uuid.hexNumber? 0 digits
    return (← charOf? n, c.advance (width + 1))
  | none => return (← escape? ch, c.advance 1)

inductive RunEnd where
  /-- White space, the closing quote, or the end of the text. -/
  | mark
  /-- An escaped line break, which is passed over. -/
  | escapedBreak
deriving DecidableEq, Repr

def quotedRun (single : Bool) (text : List Char) (c : Cursor) :
    (fuel : Nat) → Option (List Char × RunEnd × Cursor)
  | 0 => some (text, .mark, c)
  | fuel + 1 =>
    match c.peek with
    | none => some (text, .mark, c)
    | some ch =>
      if isBlank ch || isBreak ch then some (text, .mark, c)
      else if single then
        if ch == '\'' then
          if c.peekAt 1 == some '\'' then quotedRun single (text ++ ['\'']) (c.advance 2) fuel
          else some (text, .mark, c)
        else quotedRun single (text ++ [ch]) (c.advance 1) fuel
      else if ch == '"' then some (text, .mark, c)
      else if ch == '\\' then
        if (c.peekAt 1).any isBreak then some (text, .escapedBreak, (c.advance 1).skipBreak)
        else
          match escaped? (c.advance 1) with
          | some (e, c) => quotedRun single (text ++ [e]) c fuel
          | none => none
      else quotedRun single (text ++ [ch]) (c.advance 1) fuel

def quoteMark (single : Bool) : Char := if single then '\'' else '"'

/-- Reads runs and white space on to the closing quote. No document marker may stand between them. -/
def quotedFrom (single : Bool) (text : List Char) (c : Cursor) :
    (fuel : Nat) → Option (List Char × Cursor)
  | 0 => none
  | fuel + 1 =>
    if c.seesMarker || c.rest.isEmpty then none
    else
      match quotedRun single text c c.rest.length with
      | none => none
      | some (text, runEnd, c) =>
        if c.sees (quoteMark single) then some (text, c.advance 1)
        else
          let gap := if runEnd = .escapedBreak then Gap.escapedBreak else Gap.none
          match gap.read 0 c c.rest.length with
          | none => none
          | some (gap, c) => quotedFrom single (text ++ gap.text) c fuel

def quoted? (single : Bool) (c : Cursor) : Option (List Char × Cursor) :=
  quotedFrom single [] (c.advance 1) (c.rest.length + 1)

/-- What becomes of the line breaks at the end of a block scalar. -/
inductive Chomping where
  | strip
  | clip
  | keep
deriving DecidableEq, Repr, Inhabited

def chomping? (c : Cursor) : Option (Chomping × Cursor) :=
  match c.peek with
  | some '+' => some (.keep, c.advance 1)
  | some '-' => some (.strip, c.advance 1)
  | _ => none

/-- Reads the digit that tells the indentation, which must not be zero. The outer result is missing
where the digit is refused. -/
def increment? (c : Cursor) : Option (Option Nat × Cursor) :=
  match c.peek with
  | some ch =>
    if ch == '0' then none
    else if '1' ≤ ch ∧ ch ≤ '9' then some (some (ch.toNat - '0'.toNat), c.advance 1)
    else some (none, c)
  | none => some (none, c)

/-- Reads the chomping and the indentation, in either order, and the rest of the line. -/
def blockHeader? (c : Cursor) : Option (Chomping × Option Nat × Cursor) := do
  let (chomping, increment, c) ←
    match chomping? c with
    | some (chomping, c) => do
      let (increment, c) ← increment? c
      pure (chomping, increment, c)
    | none => do
      let (increment, c) ← increment? c
      match increment, chomping? c with
      | some _, some (chomping, c) => pure (chomping, increment, c)
      | _, _ => pure (.clip, increment, c)
  let c := c.skipBlanks
  let c := if c.sees '#' then c.skipToBreak else c
  guard (endsLine c.peek)
  return (chomping, increment, c.skipBreak)

/-- Reads empty lines and the indentation after them. With no indentation known yet, the widest one
is found out; a tab in its place is refused. -/
def blockBreaks (indent : Option Nat) (widest : Nat) (breaks : List Char) (c : Cursor) :
    (fuel : Nat) → Option (List Char × Nat × Cursor)
  | 0 => some (breaks, widest, c)
  | fuel + 1 =>
    let width := (c.rest.takeWhile (· == ' ')).length
    let c := c.advance ((indent.map fun n => min width (n - c.column)).getD width)
    let widest := max widest c.column
    if indent.all (c.column < ·) && c.sees '\t' then none
    else if c.peek.any isBreak then
      let (text, c) := c.takeBreak
      blockBreaks indent widest (breaks ++ text) c fuel
    else some (breaks, widest, c)

/-- The state between two lines of a block scalar: the text before, what the last line break stands
for, what the empty lines after it stand for, and whether the last line began with a blank. -/
structure BlockText where
  text : List Char
  leading : List Char
  trailing : List Char
  beganBlank : Bool
deriving Repr, Inhabited

/-- The text up to the next line, which begins with a blank or not. Folding turns a line break between
two lines that begin with no blank into a space. -/
def BlockText.joined (b : BlockText) (folds beginsBlank : Bool) : List Char :=
  if folds && b.leading.head? == some '\n' && !b.beganBlank && !beginsBlank then
    b.text ++ (if b.trailing.isEmpty then [' '] else []) ++ b.trailing
  else b.text ++ b.leading ++ b.trailing

/-- Reads the lines of a block scalar that stand at its indentation. -/
def blockLines (folds : Bool) (indent : Nat) (b : BlockText) (c : Cursor) :
    (fuel : Nat) → Option (BlockText × Cursor)
  | 0 => some (b, c)
  | fuel + 1 =>
    if c.column ≠ indent ∨ c.rest.isEmpty then some (b, c)
    else
      let beginsBlank := c.peek.any isBlank
      let line := c.rest.takeWhile fun ch => !isBreak ch
      let text := b.joined folds beginsBlank ++ line
      let (leading, c) := (c.advance line.length).takeBreak
      match blockBreaks (some indent) 0 [] c (c.rest.length + 1) with
      | none => none
      | some (trailing, _, c) => blockLines folds indent ⟨text, leading, trailing, beginsBlank⟩ c fuel

/-- Reads a block scalar from its mark, inside a block that is indented by `parent` columns; the
outermost level counts as -1. -/
def block? (folds : Bool) (parent : Int) (c : Cursor) : Option (List Char × Cursor) := do
  let (chomping, increment, c) ← blockHeader? (c.advance 1)
  let given := increment.map fun n => ((max parent 0) + n).toNat
  let (trailing, widest, c) ← blockBreaks given 0 [] c (c.rest.length + 1)
  let indent := given.getD (max (max widest (parent + 1).toNat) 1)
  let (b, c) ← blockLines folds indent ⟨[], [], trailing, false⟩ c (c.rest.length + 1)
  let ending := match chomping with
    | .strip => []
    | .clip => b.leading
    | .keep => b.leading ++ b.trailing
  return (b.text ++ ending, c)

end MeetingInsights.Yaml
