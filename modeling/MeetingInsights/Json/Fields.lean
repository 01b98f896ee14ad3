import MeetingInsights.Json.Value
import MeetingInsights.Json.Reader

/-! # Records in JSON

Reading a record with named fields from a document. An object gives the fields by name, in any order,
and may hold others, which are passed over; an array gives them by position. A decoder is told how
many containers enclose its document, since no container may lie under more than `maxDepth` others.
-/

namespace MeetingInsights.Json

/-- Reads a value from a document that `depth` containers enclose. -/
abbrev Decoder (α : Type) := (depth : Nat) → Doc → Option α

inductive Slot where
  /-- The document of the field. -/
  | given (d : Doc)
  /-- An object without the field. -/
  | absent
  /-- An array that ends before the field. -/
  | beyond
deriving Inhabited

/-- The slot of each field that the members of an object fill. No field may occur twice, and every
key must stand for a text. -/
def slotsByName (names : List String) : List (Literal × Doc) → Option (List Slot)
  | [] => some (names.map fun _ => .absent)
  | (k, d) :: ms => do
    let k ← Literal.text? k
    let slots ← slotsByName names ms
    fill k d names slots
where
  /-- Fills the slot of one field, which must be empty. -/
  fill (k : String) (d : Doc) : List String → List Slot → Option (List Slot)
    | name :: names, slot :: slots =>
      if name = k then
        match slot with
        | .given _ => none
        | _ => some (.given d :: slots)
      else (fill k d names slots).map (slot :: ·)
    | _, slots => some slots

/-- The slot of each field that the items of an array fill. There must be no more items than
fields. -/
def slotsByPosition : (names : List String) → List Doc → Option (List Slot)
  | [], [] => some []
  | [], _ :: _ => none
  | _ :: names, [] => (slotsByPosition names []).map (.beyond :: ·)
  | _ :: names, d :: ds => (slotsByPosition names ds).map (.given d :: ·)

def slots? (names : List String) (depth : Nat) : Doc → Option (List Slot)
  | .object members => if depth < maxDepth then slotsByName names members else none
  | .array items => if depth < maxDepth then slotsByPosition names items else none
  | _ => none

namespace Slot

def required (read : Decoder α) (depth : Nat) : Slot → Option α
  | .given d => read depth d
  | _ => none

def withDefault (value : α) (read : Decoder α) (depth : Nat) : Slot → Option α
  | .given d => read depth d
  | _ => some value

/-- A field that may be null or absent, though an array must reach it. -/
def nullable (read : Decoder α) (depth : Nat) : Slot → Option (Option α)
  | .given .null => some none
  | .given d => (read depth d).map some
  | .absent => some none
  | .beyond => none

/-- A field that may be null, absent or beyond the end of an array. -/
def nullableOrAbsent (read : Decoder α) (depth : Nat) : Slot → Option (Option α)
  | .beyond => some none
  | slot => slot.nullable read depth

end Slot

def text : Decoder String
  | _, .string s => Literal.text? s
  | _, _ => none

def flag : Decoder Bool
  | _, .bool b => some b
  | _, _ => none

/-- An integer between two bounds, the upper of which is excluded. -/
def integer (low high : Int) : Decoder Int
  | _, .number n => n.int?.bind fun i => if low ≤ i ∧ i < high then some i else none
  | _, _ => none

def unsigned (bits : Nat) : Decoder Nat := fun depth d =>
  (integer 0 (Nat.pow 2 bits) depth d).map Int.toNat

def signed64 : Decoder Int := integer (-(Nat.pow 2 63)) (Nat.pow 2 63)

def anything : Decoder Json := fun depth d => if d.isSound depth then ofDoc? d else none

def list (read : Decoder α) : Decoder (List α)
  | depth, .array items =>
    if depth < maxDepth then items.mapM (read (depth + 1)) else none
  | _, _ => none

/-- One of several words, alone or as the only key of an object that holds null. -/
def word (values : List (String × α)) : Decoder α
  | _, .string s => (Literal.text? s).bind fun s => List.lookup s values
  | depth, .object [(k, .null)] =>
    if depth < maxDepth then (Literal.text? k).bind fun k => List.lookup k values else none
  | _, _ => none

def decode? (read : Decoder α) (s : String) : Option α := (Doc.parse? s).bind (read 0)

end MeetingInsights.Json
