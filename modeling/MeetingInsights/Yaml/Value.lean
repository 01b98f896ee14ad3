import MeetingInsights.Number.Binary
import MeetingInsights.Yaml.Lexer
import MeetingInsights.Yaml.Node

/-! # Values in YAML

Reading texts, truth values, numbers and records with named fields from the nodes of a document.
Only a plain scalar can be read as a truth value or a number, or a literal one with the tag for it.
-/

namespace MeetingInsights.Yaml

def Document.ofText? (s : String) : Option Document :=
  (Token.ofText? s).bind Document.ofTokens?

abbrev Decoder (α : Type) := Document → Node → Option α

/-- The tags of values that are not texts. -/
def intTag : String := "tag:yaml.org,2002:int"

@[inherit_doc intTag]
def boolTag : String := "tag:yaml.org,2002:bool"

@[inherit_doc intTag]
def floatTag : String := "tag:yaml.org,2002:float"

/-- The text of a scalar that can be read as a value with the given tag. -/
def untyped (wanted : String) : Decoder String := fun d n => do
  match ← d.follow? n with
  | .scalar _ .plain text => return text
  | .scalar (some tag) .literal text =>
    guard (tag = wanted)
    return text
  | _ => none

def text : Decoder String := fun d n => do
  match ← d.follow? n with
  | .scalar _ _ text => return text
  | _ => none

def flagOf? (s : String) : Option Bool :=
  if s ∈ ["true", "True", "TRUE"] then some true
  else if s ∈ ["false", "False", "FALSE"] then some false
  else none

def flag : Decoder Bool := fun d n => (untyped boolTag d n).bind flagOf?

def isSigned : List Char → Bool
  | c :: _ => c == '+' || c == '-'
  | [] => false

def dropPlus : List Char → List Char
  | '+' :: cs => cs
  | cs => cs

/-- Reads digits in the base that they announce: sixteen, eight or two after a zero and a letter, and
else ten, where a zero may not lead. -/
def natural? (cs : List Char) : Option Nat :=
  match cs with
  | '0' :: 'x' :: ds => Number.naturalInBase? 16 ds
  | '0' :: 'o' :: ds => Number.naturalInBase? 8 ds
  | '0' :: 'b' :: ds => Number.naturalInBase? 2 ds
  | '0' :: _ :: _ => none
  | ds => Number.naturalInBase? 10 ds

def unsigned (bits : Nat) : Decoder Nat := fun d n => do
  let n ← natural? (dropPlus (← untyped intTag d n).toList)
  guard (n < Nat.pow 2 bits)
  return n

/-- Reads a number from its text: infinity and the absence of a number have words of their own, and
every other number is finite. -/
def numberOf? (f : Number.Format) (s : String) : Option Number.Binary := do
  let cs := dropPlus s.toList
  guard (!(cs.length < s.length && isSigned cs))
  if String.ofList cs ∈ [".inf", ".Inf", ".INF"] then return .infinite false
  if s ∈ ["-.inf", "-.Inf", "-.INF"] then return .infinite true
  if s ∈ [".nan", ".NaN", ".NAN"] then return .nan
  let x ← f.parse? (String.ofList cs)
  guard x.isFinite
  return x

/-- Reads a number of the given format, rounded to eight bytes before. -/
def number (f : Number.Format) : Decoder Number.Binary := fun d n => do
  return f.ofBinary (← numberOf? Number.double (← untyped floatTag d n))

/-- A field of a record: its name, and how a node sets it. -/
structure RecordField (α : Type) where
  name : String
  set? : Document → Node → α → Option α

def RecordField.of {α β : Type} (name : String) (decode : Decoder β) (set : α → β → α) :
    RecordField α :=
  ⟨name, fun d n a => (decode d n).map (set a)⟩

/-- The entries of a mapping, or those of a node that was left out: none. -/
def entries? (d : Document) (n : Node) : Option (List (Node × Node)) := do
  match ← d.follow? n with
  | .mapping es => return es
  | .scalar _ .plain "" => return []
  | _ => none

/-- Sets the fields that entries name, none of them twice. Entries with other names are passed over,
but all names must be texts. -/
def setFields? {α : Type} (fields : List (RecordField α)) (d : Document) (a : α)
    (known : List String) : List (Node × Node) → Option α
  | [] => some a
  | (k, v) :: es => do
    let name ← text d k
    match fields.find? fun f => f.name = name with
    | none => setFields? fields d a known es
    | some f =>
      guard (name ∉ known)
      setFields? fields d (← f.set? d v a) (name :: known) es

/-- Reads a record, in which fields that are not given have their standard values. -/
def record {α : Type} (fields : List (RecordField α)) (standard : α) : Decoder α :=
  fun d n => do setFields? fields d standard [] (← entries? d n)

end MeetingInsights.Yaml
