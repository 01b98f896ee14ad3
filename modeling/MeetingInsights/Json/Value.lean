import MeetingInsights.Json.Doc

/-! # JSON values

What a document stands for: numbers are integers of 64 bits or floating-point numbers, and the
members of an object are sorted by key, the last of several with one key being the one that counts.
-/

namespace MeetingInsights

inductive Json where
  | null
  | bool (b : Bool)
  | int (n : Int)
  | float (x : Number.Binary)
  | str (s : String)
  | arr (items : List Json)
  | obj (members : List (String × Json))
deriving Repr, Inhabited

namespace Json

/-- Puts a member in its place among members sorted by key; it replaces one with the same key. -/
def insertMember (k : String) (v : Json) : List (String × Json) → List (String × Json)
  | [] => [(k, v)]
  | (k', v') :: rest =>
    if k = k' then (k, v) :: rest
    else if k < k' then (k, v) :: (k', v') :: rest
    else (k', v') :: insertMember k v rest

mutual

/-- What a document stands for, unless one of its literals stands for nothing. -/
def ofDoc? : Doc → Option Json
  | .null => some .null
  | .bool b => some (.bool b)
  | .number n =>
    match n.int? with
    | some i => some (.int i)
    | none => n.float?.map .float
  | .string s => (Literal.text? s).map .str
  | .array items => (ofDocs? items).map .arr
  | .object members => (ofMembers? [] members).map .obj

def ofDocs? : List Doc → Option (List Json)
  | [] => some []
  | d :: ds => do
    let v ← ofDoc? d
    return v :: (← ofDocs? ds)

def ofMembers? (found : List (String × Json)) : List (Literal × Doc) → Option (List (String × Json))
  | [] => some found
  | (k, d) :: ms => do
    let k ← Literal.text? k
    let v ← ofDoc? d
    ofMembers? (insertMember k v found) ms

end

/-- The value of an optional member: nothing stands for an absent one. -/
def optional (v : Option Json) (k : String) : List (String × Json) :=
  match v with
  | some v => [(k, v)]
  | none => []

def nullable (s : Option String) : Json := (s.map Json.str).getD .null

end Json

end MeetingInsights
