import MeetingInsights.Environment.Value
import MeetingInsights.Text.Blank

/-! # Assignments to variables

A text of assignments, one a line unless quotes go on to the next, which set variables that are not
set already. The first line that is no assignment ends it.
-/

namespace MeetingInsights.Environment

open Config (Lookup)

inductive LineState where
  | complete
  /-- Behind white space, where a comment may begin. -/
  | blank
  | escape
  | strong
  | strongEscape
  | weak
  | weakEscape
deriving DecidableEq, Repr, Inhabited

def LineState.opened (c : Char) : LineState :=
  if c = '\\' then .escape else if c = '"' then .weak else if c = '\'' then .strong else .complete

/-- The state behind a character, unless a comment begins with it. -/
def LineState.next? (c : Char) : LineState → Option LineState
  | .blank => if c = '#' then none else some (opened c)
  | .complete =>
    if Text.isBlank c && c != '\n' && c != '\r' then some .blank else some (opened c)
  | .escape => some .complete
  | .weak => some (if c = '\\' then .weakEscape else if c = '"' then .complete else .weak)
  | .weakEscape => some .weak
  | .strong => some (if c = '\\' then .strongEscape else if c = '\'' then .complete else .strong)
  | .strongEscape => some .strong

/-- Reads a line: what stands before a comment, and the state behind it unless there is one. -/
def scanLine (s : LineState) : List Char → List Char × Option LineState
  | [] => ([], some s)
  | c :: cs =>
    match s.next? c with
    | none => ([], none)
    | some s =>
      let (kept, s) := scanLine s cs
      (c :: kept, s)

/-- The lines of a text, each with the character that ends it. -/
def rawLines (line : List Char) : List Char → List (List Char)
  | [] => if line.isEmpty then [] else [line.reverse]
  | '\n' :: cs => ('\n' :: line).reverse :: rawLines [] cs
  | c :: cs => rawLines (c :: line) cs

def withoutEnd (cs : List Char) : List Char :=
  match cs.reverse with
  | '\n' :: '\r' :: rest => rest.reverse
  | '\n' :: rest => rest.reverse
  | _ => cs

/-- The lines of a text after `before`, where quotes join lines. A text that ends within quotes has
no last line, for which `none` stands. A line that is a comment is an empty one. -/
def joinLines (before : List Char) (s : LineState) : List (List Char) → List (Option (List Char))
  | [] => if s = .complete then [] else [none]
  | raw :: raws =>
    if (Text.trimLeft (before ++ raw)).head? = some '#' then some [] :: joinLines [] .complete raws
    else
      match scanLine s raw with
      | (kept, none) => some (before ++ kept) :: joinLines [] .complete raws
      | (kept, some .complete) =>
        some (withoutEnd (before ++ kept)) :: joinLines [] .complete raws
      | (kept, some s) => joinLines (before ++ kept) s raws

def isKeyChar (c : Char) : Bool :=
  ('a' ≤ c && c ≤ 'z') || ('A' ≤ c && c ≤ 'Z') || ('0' ≤ c && c ≤ '9') || c == '_' || c == '.'

def beginsKey (c : Char) : Bool :=
  ('a' ≤ c && c ≤ 'z') || ('A' ≤ c && c ≤ 'Z') || c == '_'

/-- Reads the name of a variable and the white space behind it. -/
def key? (cs : List Char) : Option (List Char × List Char) :=
  if cs.head?.any beginsKey then
    some (cs.takeWhile isKeyChar, Text.trimLeft (cs.dropWhile isKeyChar))
  else none

/-- Reads the name of a variable up to the equals sign behind it. A word that marks the variable for
export may stand before the name. -/
def target? (cs : List Char) : Option (List Char × List Char) := do
  match ← key? cs with
  | (name, '=' :: rest) => return (name, rest)
  | (name, rest) =>
    guard (name = "export".toList)
    match ← key? rest with
    | (name, '=' :: rest) => return (name, rest)
    | _ => none

inductive Line where
  | nothing
  | assignment (name value : String)
  | malformed
deriving DecidableEq, Repr, Inhabited

def Line.ofChars (lookup : Lookup) (cs : List Char) : Line :=
  match Text.trimChars cs with
  | [] | '#' :: _ => .nothing
  | cs =>
    match target? cs with
    | none => .malformed
    | some (name, rest) =>
      match Text.trimLeft rest with
      | [] | '#' :: _ => .assignment (String.ofList name) ""
      | rest =>
        match value? lookup .empty rest with
        | some value => .assignment (String.ofList name) value
        | none => .malformed

def define (lookup : Lookup) (name value : String) : Lookup := fun k =>
  (lookup k).or (if k = name then some value else none)

/-- Sets the variables that lines assign, up to the first line that is malformed. -/
def applyLines (lookup : Lookup) : List (Option (List Char)) → Lookup
  | [] | none :: _ => lookup
  | some cs :: rest =>
    match Line.ofChars lookup cs with
    | .nothing => applyLines lookup rest
    | .assignment name value => applyLines (define lookup name value) rest
    | .malformed => lookup

/-- Sets the variables that a text assigns and that are not set already. A byte order mark at its
beginning does not count. -/
def extend (lookup : Lookup) (s : String) : Lookup :=
  let cs := match s.toList with
    | '\ufeff' :: cs => cs
    | cs => cs
  applyLines lookup (joinLines [] .complete (rawLines [] cs))

/-- The parts of a text between characters that do not satisfy `p`. -/
def runs (p : Char → Bool) (cs : List Char) : List String :=
  ((cs.splitOnP fun c => !p c).filter fun run => !run.isEmpty).map String.ofList

/-- Names among which are all that reading a text looks up. -/
def mentioned (s : String) : List String :=
  let cs := s.toList
  (runs isKeyChar cs ++ runs Text.isAlphanumeric cs ++
    runs (fun c => c != '\x7b' && c != '\x7d') cs).eraseDups

end MeetingInsights.Environment
