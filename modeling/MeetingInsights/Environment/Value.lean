import MeetingInsights.Config.Environment
import MeetingInsights.Text.Alphanumeric

/-! # Values of variables

The value behind the equals sign of an assignment. Quotes keep blanks, strong ones keep everything;
a dollar sign outside of them stands before the name of a variable whose value is put in.
-/

namespace MeetingInsights.Environment

open Config (Lookup)

inductive Mode where
  | plain
  /-- A backslash stands before it. -/
  | escaped
  /-- Strong quotes are open. -/
  | strong
  /-- The name of a variable. -/
  | name
  /-- The name of a variable in braces. -/
  | bracedName
  /-- The value is over, and only a comment may follow. -/
  | ending
deriving DecidableEq, Repr, Inhabited

/-- A value in the making; the texts are kept backwards. -/
structure Draft where
  mode : Mode
  /-- Whether weak quotes are open. -/
  inWeak : Bool
  name : List Char
  output : List Char
deriving Repr, Inhabited

namespace Draft

def empty : Draft := ⟨.plain, false, [], []⟩

def push (d : Draft) (c : Char) : Draft := { d with output := c :: d.output }

def substitute (d : Draft) (lookup : Lookup) : Draft :=
  let value := (lookup (String.ofList d.name.reverse)).getD ""
  { d with output := value.toList.reverse ++ d.output, name := [] }

def unescape? (c : Char) : Option Char :=
  if c ∈ ['\\', '\'', '"', '$', ' '] then some c
  else if c = 'n' then some '\n'
  else none

/-- Reads a character outside of strong quotes, escapes and names. -/
def plain (d : Draft) (c : Char) : Draft :=
  if c = '$' then { d with mode := .name }
  else if c = '\\' then { d with mode := .escaped }
  else if c = '"' then { d with inWeak := !d.inWeak }
  else if d.inWeak then d.push c
  else if c = '\'' then { d with mode := .strong }
  else if c = ' ' ∨ c = '\t' then { d with mode := .ending }
  else d.push c

/-- Reads a character of a name. One that does not belong to it ends it and stands for itself, unless
it begins another name. -/
def named (d : Draft) (lookup : Lookup) (c : Char) : Draft :=
  if Text.isAlphanumeric c then { d with name := c :: d.name }
  else if c = '\x7b' ∧ d.name = [] then { d with mode := .bracedName }
  else if c = '$' then d.substitute lookup
  else { (d.substitute lookup).push c with mode := .plain }

def braced (d : Draft) (lookup : Lookup) (c : Char) : Draft :=
  if c = '\x7d' then { d.substitute lookup with mode := .plain }
  else { d with name := c :: d.name }

/-- The value, unless a quote or a brace is still open. -/
def finish? (d : Draft) (lookup : Lookup) : Option String :=
  if d.mode = .bracedName ∨ d.mode = .strong ∨ d.inWeak then none
  else some (String.ofList (d.substitute lookup).output.reverse)

end Draft

def value? (lookup : Lookup) (d : Draft) : List Char → Option String
  | [] => d.finish? lookup
  | c :: cs =>
    match d.mode with
    | .plain => value? lookup (d.plain c) cs
    | .escaped =>
      match Draft.unescape? c with
      | some e => value? lookup { d.push e with mode := .plain } cs
      | none => none
    | .strong =>
      value? lookup (if c = '\'' then { d with mode := .plain } else d.push c) cs
    | .name => value? lookup (d.named lookup c) cs
    | .bracedName => value? lookup (d.braced lookup c) cs
    | .ending =>
      if c = ' ' ∨ c = '\t' then value? lookup d cs
      else if c = '#' then d.finish? lookup
      else none

end MeetingInsights.Environment
