import MeetingInsights.Yaml.Token

/-! # Documents of YAML

The nodes of a document, read from its tokens. A node may be marked by an anchor, and an alias stands
for the node that is marked.
-/

namespace MeetingInsights.Yaml

/-- A node of a document. Only scalars keep their tags. -/
inductive Node where
  | scalar (tag : Option String) (style : Style) (text : String)
  | sequence (items : List Node)
  | mapping (entries : List (Node × Node))
  /-- Stands for the node marked under this number. -/
  | alias (number : Nat)
deriving Repr, Inhabited

def Node.empty : Node := .scalar none .plain ""

/-- A node marked by an anchor: the number of the anchor, and the place of the node among the marked
ones. -/
structure Marked where
  number : Nat
  place : Nat
  node : Node
deriving Repr, Inhabited

/-- A text of one document at most, with its marked nodes. -/
structure Document where
  root : Option Node
  marked : List Marked
deriving Repr, Inhabited

namespace Document

def marked? (d : Document) (number : Nat) : Option Node :=
  ((d.marked.filter fun m => m.number = number).foldl later none).map Marked.node
where
  /-- Of two marked nodes the one that begins later. -/
  later (a : Option Marked) (b : Marked) : Option Marked :=
    match a with
    | some a => if a.place < b.place then some b else some a
    | none => some b

/-- The node that a node stands for: an alias for the marked one, and any other for itself. -/
def follow? (d : Document) : Node → Option Node
  | .alias number => d.marked? number
  | n => some n

end Document

/-- What is left to be read, with what the nodes before it have declared. -/
structure Unread where
  tokens : List Token
  /-- What the handles of tags stand for. -/
  handles : List (String × String)
  /-- The numbers of anchors by name. -/
  anchors : List (String × Nat)
  /-- How many nodes have been marked. -/
  marks : Nat
  marked : List Marked
deriving Repr, Inhabited

abbrev Reading := StateT Unread Option

namespace Reading

def peek : Reading Token := do
  match (← get).tokens with
  | t :: _ => return t
  | [] => failure

def skip : Reading Unit := modify fun u => { u with tokens := u.tokens.tail }

def expect (t : Token) : Reading Unit := do
  guard ((← peek) = t)
  skip

def tagOf (handle suffix : String) : Reading String := do
  if handle.isEmpty then return suffix
  match (← get).handles.lookup handle with
  | some stem => return stem ++ suffix
  | none => failure

def tag : Reading (Option String) := do
  match ← peek with
  | .tag handle suffix =>
    skip
    return some (← tagOf handle suffix)
  | _ => return none

def anchor : Reading (Option String) := do
  match ← peek with
  | .anchor name =>
    skip
    return some name
  | _ => return none

/-- Reads an anchor and a tag in either order, where each may be missing. -/
def properties : Reading (Option String × Option String) := do
  match ← anchor with
  | some name => return (some name, ← tag)
  | none =>
    let t ← tag
    let name ← if t.isSome then anchor else pure none
    return (name, t)

/-- Sets an anchor and gives its number, which is how many names are known before it is set. -/
def numberOf (name : String) : Reading Nat := do
  let u ← get
  let number := u.anchors.length
  let others := u.anchors.filter fun a => a.1 ≠ name
  set { u with anchors := (name, number) :: others }
  return number

/-- Reads a node that an anchor may mark. The anchor is known inside of the node already. -/
def mark (name : Option String) (node : Reading Node) : Reading Node := do
  match name with
  | none => node
  | some name =>
    let number ← numberOf name
    let place := (← get).marks
    modify fun u => { u with marks := place + 1 }
    let n ← node
    modify fun u => { u with marked := ⟨number, place, n⟩ :: u.marked }
    return n

def aliased (name : String) : Reading Node := do
  skip
  match (← get).anchors.lookup name with
  | some number => return .alias number
  | none => failure

/-- Reads a node unless one of the given tokens follows, before which it is left out. -/
def orEmpty (enders : List Token) (node : Reading Node) : Reading Node := do
  if (← peek) ∈ enders then return .empty
  node

/-- Reads the value after a key of a flow collection, if a colon announces it. -/
def flowValue (enders : List Token) (node : Reading Node) : Reading Node := do
  if (← peek) = .value then
    skip
    orEmpty enders node
  else return .empty

mutual

/-- Reads a node. Blocks, and sequences that are not indented, may begin only where they are
allowed. -/
def node (block indentless : Bool) : (fuel : Nat) → Reading Node
  | 0 => failure
  | fuel + 1 => do
    match ← peek with
    | .alias name => aliased name
    | _ =>
      let (name, tag) ← properties
      mark name (content block indentless name.isSome tag fuel)

/-- Reads a node after its anchor and its tag. One that has either may be left out. -/
def content (block indentless hasAnchor : Bool) (tag : Option String) : (fuel : Nat) → Reading Node
  | 0 => failure
  | fuel + 1 => do
    match ← peek with
    | .scalar style text =>
      skip
      return .scalar tag style text
    | .flowSequenceStart =>
      skip
      return .sequence (← flowItems true fuel)
    | .flowMappingStart =>
      skip
      return .mapping (← flowEntries true fuel)
    | t =>
      if indentless && t = .blockEntry then
        return .sequence (← indentlessItems fuel)
      else if block && t = .blockSequenceStart then
        skip
        return .sequence (← blockItems fuel)
      else if block && t = .blockMappingStart then
        skip
        return .mapping (← blockEntries fuel)
      else if hasAnchor || tag.isSome then return .scalar tag .plain ""
      else failure

def blockItems : (fuel : Nat) → Reading (List Node)
  | 0 => failure
  | fuel + 1 => do
    match ← peek with
    | .blockEntry =>
      skip
      let n ← orEmpty [.blockEntry, .blockEnd] (node true false fuel)
      return n :: (← blockItems fuel)
    | _ =>
      expect .blockEnd
      return []

/-- Reads the items of a sequence that is not indented, as long as there are any. -/
def indentlessItems : (fuel : Nat) → Reading (List Node)
  | 0 => failure
  | fuel + 1 => do
    match ← peek with
    | .blockEntry =>
      skip
      let n ← orEmpty [.blockEntry, .key, .value, .blockEnd] (node true false fuel)
      return n :: (← indentlessItems fuel)
    | _ => return []

def blockEntries : (fuel : Nat) → Reading (List (Node × Node))
  | 0 => failure
  | fuel + 1 => do
    match ← peek with
    | .key =>
      skip
      let enders := [.key, .value, .blockEnd]
      let k ← orEmpty enders (node true true fuel)
      let v ←
        if (← peek) = .value then do
          skip
          orEmpty enders (node true true fuel)
        else pure .empty
      return (k, v) :: (← blockEntries fuel)
    | _ =>
      expect .blockEnd
      return []

/-- Reads the items of a flow sequence on to its end. A key there makes a mapping of one entry, and
where the key is left out, so is the token that follows it. -/
def flowItems (isFirst : Bool) : (fuel : Nat) → Reading (List Node)
  | 0 => failure
  | fuel + 1 => do
    if (← peek) = .flowSequenceEnd then
      skip
      return []
    if !isFirst then expect .flowEntry
    match ← peek with
    | .flowSequenceEnd =>
      skip
      return []
    | .key =>
      skip
      let enders := [.flowEntry, .flowSequenceEnd]
      let k ←
        if (← peek) ∈ Token.value :: enders then do
          skip
          pure Node.empty
        else node false false fuel
      let v ← flowValue enders (node false false fuel)
      return .mapping [(k, v)] :: (← flowItems false fuel)
    | _ =>
      let n ← node false false fuel
      return n :: (← flowItems false fuel)

/-- Reads the entries of a flow mapping on to its end. A node that is not marked as a key has no
value. -/
def flowEntries (isFirst : Bool) : (fuel : Nat) → Reading (List (Node × Node))
  | 0 => failure
  | fuel + 1 => do
    if (← peek) = .flowMappingEnd then
      skip
      return []
    if !isFirst then expect .flowEntry
    match ← peek with
    | .flowMappingEnd =>
      skip
      return []
    | .key =>
      skip
      let enders := [.flowEntry, .flowMappingEnd]
      let k ← orEmpty (.value :: enders) (node false false fuel)
      let v ← flowValue enders (node false false fuel)
      return (k, v) :: (← flowEntries false fuel)
    | _ =>
      let k ← node false false fuel
      return (k, .empty) :: (← flowEntries false fuel)

end

def standardHandles : List (String × String) := [("!", "!"), ("!!", "tag:yaml.org,2002:")]

/-- Reads the directives before a document: a version that is understood, at most once, and handles
of tags, each at most once. -/
def directives (hasVersion : Bool) : (fuel : Nat) → Reading Unit
  | 0 => failure
  | fuel + 1 => do
    match ← peek with
    | .versionDirective major minor =>
      guard (!hasVersion && major = 1 && (minor = 1 || minor = 2))
      skip
      directives true fuel
    | .tagDirective handle stem =>
      guard (((← get).handles.lookup handle).isNone)
      modify fun u => { u with handles := (handle, stem) :: u.handles }
      skip
      directives hasVersion fuel
    | _ => return ()

def endsEmpty : Token → Bool
  | .versionDirective .. | .tagDirective .. | .documentStart | .documentEnd | .streamEnd => true
  | _ => false

def announces : Token → Bool
  | .versionDirective .. | .tagDirective .. | .documentStart => true
  | _ => false

/-- Reads the only document there may be. Its beginning need not be marked unless directives stand
before it. -/
def document (fuel : Nat) : Reading (Option Node) := do
  let t ← peek
  if t = .streamEnd then return none
  if announces t then
    directives false fuel
    modify fun u => { u with handles := u.handles ++ standardHandles }
    expect .documentStart
    if endsEmpty (← peek) then return some .empty
    return some (← node true false fuel)
  else
    modify fun u => { u with handles := standardHandles }
    return some (← node true false fuel)

def documentEnds : (fuel : Nat) → Reading Unit
  | 0 => failure
  | fuel + 1 => do
    if (← peek) = .documentEnd then
      skip
      documentEnds fuel

def text (fuel : Nat) : Reading (Option Node) := do
  let root ← document fuel
  documentEnds fuel
  expect .streamEnd
  return root

end Reading

def Document.ofTokens? (ts : List Token) : Option Document :=
  ((Reading.text (3 * ts.length + 3)).run ⟨ts, [], [], 0, []⟩).map fun (root, u) =>
    ⟨root, u.marked⟩

end MeetingInsights.Yaml
