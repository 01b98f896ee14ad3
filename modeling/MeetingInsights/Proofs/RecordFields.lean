import MeetingInsights.Proofs.JsonStability

/-! # Fields of records

The fields that are read of an object that was written, and what a decoder makes of them. A decoder of
a field is asked for no more than to read back what was written for one value.
-/

namespace MeetingInsights.Json

/-- A value is read of its text as of its document. -/
theorem decode?_toText {α : Type} (read : Decoder α) {v : Json} (integral : v.isIntegral = true) :
    decode? read v.toText = read 0 v.toDoc := by
  rw [decode?, parse?_toText integral, Option.bind_some]

/-- The slot that an object fills which gives a field a value or not. -/
def Slot.of : Option Json → Slot
  | some v => .given v.toDoc
  | none => .absent

theorem lookup_cons {α : Type} (n k : String) (a : α) (ms : List (String × α)) :
    ((k, a) :: ms).lookup n = if n = k then some a else ms.lookup n := by
  by_cases same : n = k
  · rw [if_pos same, same, List.lookup_cons_self]
  · rw [if_neg same, List.lookup_cons, beq_eq_false_iff_ne.mpr same]

private theorem fill_eq {names : List String} (slot : String → Slot) {k : String} (d : Doc)
    (distinct : names.Nodup) (empty : slot k = .absent) :
    slotsByName.fill k d names (names.map slot) =
      some (names.map fun n => if n = k then .given d else slot n) := by
  induction names with
  | nil => rfl
  | cons name names ih =>
    obtain ⟨fresh, distinct⟩ := List.nodup_cons.mp distinct
    simp only [List.map_cons, slotsByName.fill, ih distinct, Option.map_some]
    split
    case isTrue same =>
      subst same
      have others : names.map (fun n => if n = name then Slot.given d else slot n) =
          names.map slot :=
        List.map_congr_left fun n h => if_neg (ne_of_mem_of_not_mem h fresh)
      rw [empty, others]
    case isFalse => rfl

theorem slotsByName_memberDocs {names : List String} {ms : List (String × Json)}
    (distinct : names.Nodup) (keys : (ms.map Prod.fst).Nodup) :
    slotsByName names (memberDocs ms) = some (names.map fun n => Slot.of (ms.lookup n)) := by
  induction ms with
  | nil => rfl
  | cons m ms ih =>
    obtain ⟨k, v⟩ := m
    obtain ⟨fresh, keys⟩ := List.nodup_cons.mp keys
    have absent : ms.lookup k = none :=
      List.lookup_eq_none_iff.mpr fun m h =>
        bne_iff_ne.mpr fun same => fresh (List.mem_map.mpr ⟨m, h, same.symm⟩)
    have filled := fill_eq (fun n => Slot.of (ms.lookup n)) v.toDoc distinct (by rw [absent]; rfl)
    simp only [memberDocs, slotsByName, text?_written, ih keys, Option.bind_eq_bind,
      Option.bind_some, filled, lookup_cons]
    congr 1
    refine List.map_congr_left fun n _ => ?_
    split <;> rfl

theorem slots?_toDoc {names : List String} {depth : Nat} {ms : List (String × Json)}
    (room : depth < maxDepth) (distinct : names.Nodup) (keys : (ms.map Prod.fst).Sublist names) :
    slots? names depth (toDoc (.obj ms)) = some (names.map fun n => Slot.of (ms.lookup n)) := by
  rw [toDoc, slots?, if_pos room, slotsByName_memberDocs distinct (keys.nodup distinct)]

theorem keys_optional (v : Option Json) (k : String) :
    ((optional v k).map Prod.fst).Sublist [k] := by
  cases v with
  | none => exact List.nil_sublist _
  | some v => exact List.Sublist.refl _

theorem lookup_optional (v : Option Json) (k n : String) :
    (optional v k).lookup n = if n = k then v else none := by
  cases v with
  | none => simp [optional]
  | some v => rw [optional, lookup_cons, List.lookup_nil]

@[simp]
theorem membersAreIntegral_append (ms ms' : List (String × Json)) :
    membersAreIntegral (ms ++ ms') = (membersAreIntegral ms && membersAreIntegral ms') := by
  induction ms with
  | nil => rfl
  | cons m ms ih => rw [List.cons_append, membersAreIntegral, ih, membersAreIntegral, Bool.and_assoc]

@[simp]
theorem membersAreIntegral_optional (v : Option Json) (k : String) :
    membersAreIntegral (optional v k) = true ↔ ∀ j ∈ v, j.isIntegral = true := by
  cases v <;> simp [optional, membersAreIntegral]

@[simp]
theorem isIntegral_nullable (s : Option String) : (nullable s).isIntegral = true := by
  cases s <;> rfl

@[simp]
theorem isSound_str (depth : Nat) (s : String) : (toDoc (.str s)).isSound depth = true := by
  simp [toDoc, Doc.isSound, text?_written]

@[simp]
theorem isSound_nullable (depth : Nat) (s : Option String) :
    (nullable s).toDoc.isSound depth = true := by
  cases s with
  | none => rfl
  | some s => exact isSound_str depth s

section

variable {α : Type} {read : Decoder α} {write : α → Json} {depth : Nat}

@[simp]
theorem required_of (v : Json) : Slot.required read depth (.of (some v)) = read depth v.toDoc := rfl

@[simp]
theorem withDefault_of (value : α) (v : Json) :
    Slot.withDefault value read depth (.of (some v)) = read depth v.toDoc := rfl

/-- An object never ends before a field, so that a field may be left out of it. -/
@[simp]
theorem nullableOrAbsent_of (v : Option Json) :
    Slot.nullableOrAbsent read depth (.of v) = Slot.nullable read depth (.of v) := by
  cases v <;> rfl

theorem nullable_given {d : Doc} (present : d ≠ .null) :
    Slot.nullable read depth (.given d) = (read depth d).map some := by
  cases d with
  | null => exact absurd rfl present
  | _ => rfl

/-- An optional field is read back that is left out where it has no value. -/
theorem nullable_of_map {o : Option α} (back : ∀ a ∈ o, read depth (write a).toDoc = some a)
    (present : ∀ a ∈ o, (write a).toDoc ≠ .null) :
    Slot.nullable read depth (.of (o.map write)) = some o := by
  cases o with
  | none => rfl
  | some a => rw [Option.map_some, Slot.of, nullable_given (present a rfl), back a rfl]; rfl

/-- An optional field is read back that is null where it has no value. -/
theorem nullable_of_getD {o : Option α} (back : ∀ a ∈ o, read depth (write a).toDoc = some a)
    (present : ∀ a ∈ o, (write a).toDoc ≠ .null) :
    Slot.nullable read depth (.of (some ((o.map write).getD .null))) = some o := by
  cases o with
  | none => rfl
  | some a => exact nullable_of_map back present

theorem eq_some_of_required {slot : Slot} {a : α} (h : slot.required read depth = some a) :
    ∃ d, read depth d = some a := by
  cases slot with
  | given d => exact ⟨d, h⟩
  | absent => nomatch h
  | beyond => nomatch h

theorem eq_some_of_nullable {slot : Slot} {o : Option α} (h : slot.nullable read depth = some o) :
    ∀ a ∈ o, ∃ d, d ≠ .null ∧ read depth d = some a := by
  rintro a rfl
  cases slot with
  | given d =>
    by_cases present : d = .null
    · subst present
      nomatch h
    · rw [nullable_given present] at h
      exact ⟨d, present, by simpa using h⟩
  | absent => nomatch h
  | beyond => nomatch h

/-- A field beyond the end of an array may as well be left out of an object. -/
theorem nullable_of_nullableOrAbsent {slot : Slot} {o : Option α}
    (h : slot.nullableOrAbsent read depth = some o) :
    ∃ slot : Slot, slot.nullable read depth = some o := by
  cases slot with
  | given d => exact ⟨.given d, h⟩
  | absent => exact ⟨.absent, h⟩
  | beyond => exact ⟨.absent, h⟩

end

section

variable (depth : Nat)

@[simp]
theorem text_toDoc (s : String) : text depth (toDoc (.str s)) = some s := text?_written s

@[simp]
theorem nullable_text (s : Option String) :
    Slot.nullable text depth (.of (s.map .str)) = some s :=
  nullable_of_map (fun s _ => text_toDoc depth s) fun _ _ h => nomatch h

@[simp]
theorem nullable_text_null (s : Option String) :
    Slot.nullable text depth (.of (some (nullable s))) = some s :=
  nullable_of_getD (fun s _ => text_toDoc depth s) fun _ _ h => nomatch h

theorem word_toDoc {α : Type} (values : List (String × α)) (s : String) :
    word values depth (toDoc (.str s)) = values.lookup s := by
  rw [toDoc, word, text?_written, Option.bind_some]

end

private theorem docs_map {α : Type} (write : α → Json) (as : List α) :
    docs (as.map write) = as.map fun a => (write a).toDoc := by
  induction as with
  | nil => rfl
  | cons a as ih => rw [List.map_cons, docs, ih, List.map_cons]

theorem list_toDoc {α : Type} {read : Decoder α} {write : α → Json} {depth : Nat}
    (room : depth < maxDepth) {as : List α}
    (back : ∀ a ∈ as, read (depth + 1) (write a).toDoc = some a) :
    list read depth (toDoc (.arr (as.map write))) = some as := by
  rw [toDoc, list, if_pos room, docs_map]
  clear room
  induction as with
  | nil => rfl
  | cons a as ih =>
    have others := ih fun b h => back b (List.mem_cons_of_mem a h)
    rw [List.map_cons, List.mapM_cons, back a List.mem_cons_self, others]
    rfl

/-- An integer of 64 bits with a sign. -/
def IsSigned64 (n : Int) : Prop := -(Nat.pow 2 63) ≤ n ∧ n < Nat.pow 2 63

theorem IsSigned64.fits {n : Int} (bounds : IsSigned64 n) : fitsNumeral n = true := by
  have wider : Nat.pow 2 63 ≤ Nat.pow 2 64 := by decide
  exact decide_eq_true ⟨bounds.1, by have := bounds.2; omega⟩

theorem signed64_toDoc (depth : Nat) {n : Int} (bounds : IsSigned64 n) :
    signed64 depth (toDoc (.int n)) = some n := by
  rw [signed64, toDoc, integer, int?_ofInt bounds.fits, Option.bind_some]
  exact if_pos bounds

theorem isSigned64_of_signed64 {depth : Nat} {d : Doc} {n : Int} (h : signed64 depth d = some n) :
    IsSigned64 n := by
  cases d with
  | number m =>
    obtain ⟨i, -, h⟩ := Option.bind_eq_some_iff.mp h
    rw [Option.ite_none_right_eq_some] at h
    exact Option.some.inj h.2 ▸ h.1
  | _ => nomatch h

theorem StableAt.anything {depth : Nat} {v : Json} (stable : StableAt depth v) :
    anything depth v.toDoc = some v := by
  rw [Json.anything, if_pos stable.sound, stable.same]

/-- What is left out where it has no value is stable where it has one, and is not null. -/
structure Keeps (depth : Nat) (o : Option Json) : Prop where
  stable : ∀ v ∈ o, StableAt depth v
  present : ∀ v ∈ o, v ≠ .null

theorem Keeps.nullable {depth : Nat} {o : Option Json} (keeps : Keeps depth o) :
    Slot.nullable Json.anything depth (.of o) = some o := by
  cases o with
  | none => rfl
  | some v =>
    have stable := keeps.stable v rfl
    have present : v.toDoc ≠ .null := by
      intro null
      have same := stable.same
      rw [null] at same
      exact keeps.present v rfl (Option.some.inj same).symm
    rw [Slot.of, nullable_given present, stable.anything]
    rfl

private theorem eq_null_of_ofDoc? {d : Doc} (h : ofDoc? d = some .null) : d = .null := by
  cases d with
  | null => rfl
  | bool b => simp [ofDoc?] at h
  | number n => rw [ofDoc?] at h; split at h <;> simp at h
  | string s => simp [ofDoc?] at h
  | array ds => simp [ofDoc?] at h
  | object ms => simp [ofDoc?] at h

theorem Keeps.of_nullable {depth : Nat} {slot : Slot} {o : Option Json}
    (h : slot.nullable Json.anything depth = some o) (integral : ∀ v ∈ o, v.isIntegral = true) :
    Keeps depth o := by
  have read : ∀ v ∈ o, ∃ d, d ≠ .null ∧ d.isSound depth = true ∧ ofDoc? d = some v := by
    intro v hv
    obtain ⟨d, present, value⟩ := eq_some_of_nullable h v hv
    rw [Json.anything, Option.ite_none_right_eq_some] at value
    exact ⟨d, present, value⟩
  constructor
  · intro v hv
    obtain ⟨d, -, sound, value⟩ := read v hv
    exact stableAt_of_ofDoc? d sound value (integral v hv)
  · rintro v hv rfl
    obtain ⟨d, present, -, value⟩ := read _ hv
    exact present (eq_null_of_ofDoc? value)

end MeetingInsights.Json
