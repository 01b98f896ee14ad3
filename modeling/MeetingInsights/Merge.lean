import MeetingInsights.Program
import MeetingInsights.Text.Blank

/-! # Merging findings into the store

Findings are applied one after another. A match adds its quotes as evidence for the opportunity it
refers to, a proposal makes a new opportunity first, and quotes that say nothing are passed over.
The first failure ends the work, and what has been written before it stays.
-/

namespace MeetingInsights.Merge

/-- What applying findings has done, in the order of the findings. -/
structure Summary where
  created : List Uuid
  matched : List Uuid
  evidenceAdded : Nat
  evidenceSkipped : Nat
deriving DecidableEq, Repr, Inhabited

namespace Summary

def empty : Summary := ⟨[], [], 0, 0⟩

def append (a b : Summary) : Summary where
  created := a.created ++ b.created
  matched := a.matched ++ b.matched
  evidenceAdded := a.evidenceAdded + b.evidenceAdded
  evidenceSkipped := a.evidenceSkipped + b.evidenceSkipped

instance : Append Summary := ⟨append⟩

@[simp] theorem empty_append (a : Summary) : empty ++ a = a := by
  show append empty a = a
  simp [append, empty]

@[simp] theorem append_empty (a : Summary) : a ++ empty = a := by
  show append a empty = a
  simp [append, empty]

theorem append_assoc (a b c : Summary) : a ++ b ++ c = a ++ (b ++ c) := by
  show append (append a b) c = append a (append b c)
  simp [append, Nat.add_assoc]

def ofCreated (id : Uuid) : Summary := { empty with created := [id] }

def ofMatched (id : Uuid) : Summary := { empty with matched := [id] }

def added : Summary := { empty with evidenceAdded := 1 }

def skipped : Summary := { empty with evidenceSkipped := 1 }

end Summary

def missingReference : Error := .invalidReference "match result has no opportunity id"

def malformedReference (raw : String) : Error :=
  .invalidReference ("'" ++ raw ++ "' is not a valid opportunity id")

/-- The identifier that a match refers to, white space around it aside. -/
def reference (m : Match) : Except Error Uuid :=
  match m.reference with
  | none => .error missingReference
  | some raw =>
    match Uuid.parse? (Text.trim raw) with
    | some id => .ok id
    | none => .error (malformedReference raw)

def lostTheme (name : String) : Error :=
  .internal ("theme '" ++ name ++ "' conflicted but was not found")

/-- The theme under a normalized name, made when there is none. Another program may make it between
the search and the creation; then the creation fails and the search is repeated. -/
def themeUnder (name : String) : Attempt Uuid := do
  match ← (Call.findTheme name).attempt with
  | some t => return t.id
  | none =>
    match ← ExceptT.lift (Program.ask (Call.createTheme name)) with
    | .ok t => return t.id
    | .error (.conflict _) =>
      match ← (Call.findTheme name).attempt with
      | some t => return t.id
      | none => throw (lostTheme name)
    | .error e => throw e

/-- The theme that a raw name stands for, which an empty one does not. -/
def resolveTheme (raw : String) : Attempt (Option Uuid) :=
  match Theme.normalizeName raw with
  | none => return none
  | some name => return some (← themeUnder name)

def themeOf : Option String → Attempt (Option Uuid)
  | some raw => resolveTheme raw
  | none => return none

def createOpportunity (p : Proposal) : Attempt Uuid := do
  let themeId ← themeOf p.theme
  (Call.createOpportunity
    ⟨p.userSegment, p.struggle, p.whyItMatters, p.workaround, themeId⟩).attempt

/-- Adds one quote as evidence unless it is blank. -/
def attachQuote (opportunity meeting : Uuid) (q : Quote) : Attempt Summary := do
  if Text.isBlankText q.text then return .skipped
  else
    let _ ← (Call.addEvidence ⟨opportunity, meeting, q.text, nonEmptyContext q.context⟩).attempt
    return .added

def attachQuotes (opportunity meeting : Uuid) : List Quote → Attempt Summary
  | [] => return .empty
  | q :: qs => do
    let first ← attachQuote opportunity meeting q
    return first ++ (← attachQuotes opportunity meeting qs)

def applyFinding (meeting : Uuid) : Finding → Attempt Summary
  | .proposed p => do
    let id ← createOpportunity p
    return .ofCreated id ++ (← attachQuotes id meeting p.quotes)
  | .matched m => do
    let id ← (reference m : Except Error Uuid)
    return .ofMatched id ++ (← attachQuotes id meeting m.quotes)

/-- Applies the findings of a meeting, in order. -/
def apply (meeting : Uuid) : List Finding → Attempt Summary
  | [] => return .empty
  | f :: fs => do
    let first ← applyFinding meeting f
    return first ++ (← apply meeting fs)

end MeetingInsights.Merge
