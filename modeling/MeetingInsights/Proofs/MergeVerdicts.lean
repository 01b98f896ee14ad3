import MeetingInsights.Proofs.MergeDecisions

/-! # What findings come to

The result of a merge and the evidence that it adds are said here of its findings, the opportunities
that are known, and the identifiers that new opportunities have got. Other identifiers lead to the
same result with other names.
-/

namespace MeetingInsights.Merge

/-- The failure to apply a finding when these opportunities are known. One that says nothing of its
opportunity does not fail for it. -/
def refusal? (known : List Uuid) : Finding → Option Error
  | .proposed _ => none
  | .matched m =>
    match reference m with
    | .error e => some e
    | .ok id =>
      if Quote.telling m.quotes ≠ [] ∧ id ∉ known then some (.opportunityNotFound id) else none

/-- The findings before the first that cannot be applied. -/
def applicable (known : List Uuid) (fs : List Finding) : List Finding :=
  fs.takeWhile fun f => (refusal? known f).isNone

/-- The result that findings lead to: the first failure, or the summary of all. -/
def verdict (known made : List Uuid) (fs : List Finding) : Except Error Summary :=
  match fs.findSome? (refusal? known) with
  | some e => .error e
  | none => .ok (summaryOf made fs)

/-- The evidence that is due for findings, when the proposals among them have made these
opportunities. -/
def keysDue (meeting : Uuid) : (made : List Uuid) → List Finding → List EvidenceKey
  | _, [] => []
  | made, .matched m :: fs =>
    (m.id?.toList.flatMap fun id => keysFor id meeting m.quotes) ++ keysDue meeting made fs
  | id :: made, .proposed p :: fs => keysFor id meeting p.quotes ++ keysDue meeting made fs
  | [], .proposed _ :: fs => keysDue meeting [] fs

variable {known made more : List Uuid} {meeting : Uuid} {f : Finding} {fs : List Finding}

theorem applicable_cons_of_refused {e : Error} (h : refusal? known f = some e) :
    applicable known (f :: fs) = [] := by
  simp [applicable, h]

theorem applicable_cons (h : refusal? known f = none) :
    applicable known (f :: fs) = f :: applicable known fs := by
  simp [applicable, h]

theorem verdict_cons_of_refused {e : Error} (h : refusal? known f = some e) :
    verdict known made (f :: fs) = .error e := by
  simp [verdict, h]

theorem verdict_cons (h : refusal? known f = none) (made more : List Uuid) (fs : List Finding) :
    (verdict known more fs).map (summaryOf made [f] ++ ·) =
      verdict known (made ++ more) (f :: fs) := by
  simp only [verdict, List.findSome?_cons, h]
  cases fs.findSome? (refusal? known) with
  | some e => rfl
  | none => exact congrArg Except.ok (summaryOf_cons made more f fs)

theorem keysDue_cons (h : made.length = (proposals [f]).length) :
    keysDue meeting made [f] ++ keysDue meeting more fs =
      keysDue meeting (made ++ more) (f :: fs) := by
  cases f with
  | proposed p =>
    obtain ⟨id, rfl⟩ := List.length_eq_one_iff.mp h
    simp [keysDue]
  | matched m =>
    obtain rfl := List.eq_nil_of_length_eq_zero h
    simp [keysDue]

theorem refusal?_of_verdict_error {e : Error} (h : verdict known made [f] = .error e) :
    refusal? known f = some e := by
  simp only [verdict, List.findSome?_singleton] at h
  cases refused : refusal? known f <;> simp_all

theorem refusal?_of_verdict_ok {a : Summary} (h : verdict known made [f] = .ok a) :
    refusal? known f = none ∧ summaryOf made [f] = a := by
  simp only [verdict, List.findSome?_singleton] at h
  cases refused : refusal? known f <;> simp_all

def Summary.rename (rename : Uuid → Uuid) (s : Summary) : Summary :=
  { s with created := s.created.map rename, matched := s.matched.map rename }

def renameKey (rename : Uuid → Uuid) (key : EvidenceKey) : EvidenceKey := (rename key.1, key.2)

section Renaming

variable {rename : Uuid → Uuid} {known made : List Uuid} {meeting : Uuid} {fs : List Finding}

theorem verdict_rename (fixed : ∀ id ∈ fs.filterMap Finding.matchedId?, rename id = id) :
    verdict known (made.map rename) fs =
      (verdict known made fs).map (Summary.rename rename) := by
  have matched : (fs.filterMap Finding.matchedId?).map rename =
      fs.filterMap Finding.matchedId? := by
    rw [List.map_congr_left fixed, List.map_id']
  unfold verdict
  cases fs.findSome? (refusal? known) with
  | some e => rfl
  | none => simp only [Except.map, Summary.rename, summaryOf, matched]

theorem keysFor_rename (rename : Uuid → Uuid) (id meeting : Uuid) (qs : List Quote) :
    keysFor (rename id) meeting qs = (keysFor id meeting qs).map (renameKey rename) := by
  rw [keysFor, keysFor, List.map_map]
  rfl

theorem keysDue_rename (fixed : ∀ id ∈ fs.filterMap Finding.matchedId?, rename id = id) :
    keysDue meeting (made.map rename) fs =
      (keysDue meeting made fs).map (renameKey rename) := by
  induction fs generalizing made with
  | nil => simp [keysDue]
  | cons f fs ih =>
    cases f with
    | proposed p =>
      cases made with
      | nil =>
        have rest : keysDue meeting ([].map rename) fs =
            (keysDue meeting [] fs).map (renameKey rename) := ih fixed
        exact rest
      | cons id made =>
        rw [List.map_cons, keysDue, keysDue, List.map_append, keysFor_rename, ih fixed]
    | matched m =>
      have same : (Finding.matched m).matchedId? = m.id? := rfl
      cases hid : m.id? with
      | none =>
        rw [List.filterMap_cons_none (same.trans hid)] at fixed
        simp [keysDue, hid, ih fixed]
      | some id =>
        rw [List.filterMap_cons_some (same.trans hid)] at fixed
        obtain ⟨first, rest⟩ := List.forall_mem_cons.mp fixed
        have keys := keysFor_rename rename id meeting m.quotes
        rw [first] at keys
        simp [keysDue, hid, ih rest, ← keys]

end Renaming

end MeetingInsights.Merge
