import MeetingInsights.Json.Fields
import MeetingInsights.Proofs.JsonDocuments

/-! # Values that texts bring

A value that was read of a document is read again of its own document: its members are sorted, none
has the key of another, and no container lies deeper than it was read from.
-/

namespace MeetingInsights.Json

/-- The members of an object in the order of their keys, of which none repeats. -/
def Sorted (ms : List (String × Json)) : Prop := ms.Pairwise fun a b => a.1 < b.1

theorem mem_insertMember {k : String} {v : Json} {ms : List (String × Json)} {m : String × Json}
    (h : m ∈ insertMember k v ms) : m = (k, v) ∨ m ∈ ms := by
  induction ms with
  | nil => exact .inl (List.mem_singleton.mp h)
  | cons m' ms ih =>
    rw [insertMember] at h
    split at h
    · exact (List.mem_cons.mp h).imp_right (List.mem_cons_of_mem m')
    · split at h
      · exact List.mem_cons.mp h
      · rcases List.mem_cons.mp h with rfl | h
        · exact .inr List.mem_cons_self
        · exact (ih h).imp_right (List.mem_cons_of_mem m')

theorem Sorted.insertMember {ms : List (String × Json)} (sorted : Sorted ms) (k : String) (v : Json) :
    Sorted (insertMember k v ms) := by
  induction ms with
  | nil => exact List.pairwise_singleton _ _
  | cons m ms ih =>
    obtain ⟨least, rest⟩ := List.pairwise_cons.mp sorted
    rw [Json.insertMember]
    split
    case isTrue same =>
      subst same
      exact List.pairwise_cons.mpr ⟨least, rest⟩
    case isFalse different =>
      split
      case isTrue before =>
        refine List.pairwise_cons.mpr ⟨fun m' h => ?_, sorted⟩
        rcases List.mem_cons.mp h with rfl | h
        · exact before
        · exact String.lt_trans before (least m' h)
      case isFalse after =>
        refine List.pairwise_cons.mpr ⟨fun m' h => ?_, ih rest⟩
        rcases mem_insertMember h with rfl | h
        · exact Std.lt_of_le_of_ne (String.not_lt.mp after) (Ne.symm different)
        · exact least m' h

private theorem insertMember_last {k : String} {v : Json} {ms : List (String × Json)}
    (last : ∀ m ∈ ms, m.1 < k) : insertMember k v ms = ms ++ [(k, v)] := by
  induction ms with
  | nil => rfl
  | cons m ms ih =>
    have before : m.1 < k := last m List.mem_cons_self
    have different : k ≠ m.1 := fun same => String.lt_irrefl k (same ▸ before)
    rw [insertMember, if_neg different, if_neg (String.lt_asymm before),
      ih fun m' h => last m' (List.mem_cons_of_mem m h), List.cons_append]

theorem Sorted.ofMembers? {ds : List (Literal × Doc)} {found ms : List (String × Json)}
    (sorted : Sorted found) (h : ofMembers? found ds = some ms) : Sorted ms := by
  induction ds generalizing found with
  | nil =>
    rw [Json.ofMembers?] at h
    exact Option.some.inj h ▸ sorted
  | cons d ds ih =>
    simp only [Json.ofMembers?, Option.bind_eq_bind, Option.bind_eq_some_iff] at h
    obtain ⟨k, -, v, -, h⟩ := h
    exact ih (sorted.insertMember k v) h

private theorem mem_of_ofMembers? {ds : List (Literal × Doc)} {found ms : List (String × Json)}
    (h : ofMembers? found ds = some ms) {m : String × Json} (hm : m ∈ ms) :
    m ∈ found ∨ ∃ d ∈ ds, ofDoc? d.2 = some m.2 := by
  induction ds generalizing found with
  | nil =>
    rw [ofMembers?] at h
    exact .inl (Option.some.inj h ▸ hm)
  | cons d ds ih =>
    simp only [ofMembers?, Option.bind_eq_bind, Option.bind_eq_some_iff] at h
    obtain ⟨k, -, v, value, h⟩ := h
    rcases ih h with h | ⟨d', hd', h⟩
    · rcases mem_insertMember h with rfl | h
      · exact .inr ⟨d, List.mem_cons_self, value⟩
      · exact .inl h
    · exact .inr ⟨d', List.mem_cons_of_mem d hd', h⟩

private theorem ofMembers?_memberDocs {found ms : List (String × Json)}
    (sorted : Sorted (found ++ ms)) (same : ∀ m ∈ ms, ofDoc? m.2.toDoc = some m.2) :
    ofMembers? found (memberDocs ms) = some (found ++ ms) := by
  induction ms generalizing found with
  | nil => rw [memberDocs, ofMembers?, List.append_nil]
  | cons m ms ih =>
    have last : ∀ m' ∈ found, m'.1 < m.1 := fun m' h =>
      (List.pairwise_append.mp sorted).2.2 m' h m List.mem_cons_self
    rw [List.append_cons] at sorted ⊢
    simp only [memberDocs, ofMembers?, text?_written, same m List.mem_cons_self,
      Option.bind_eq_bind, Option.bind_some, insertMember_last last]
    exact ih sorted fun m' h => same m' (List.mem_cons_of_mem m h)

/-- A value whose own document stands for it, under `depth` containers. -/
structure StableAt (depth : Nat) (v : Json) : Prop where
  sound : v.toDoc.isSound depth = true
  same : ofDoc? v.toDoc = some v

theorem isSound_arr {depth : Nat} {vs : List Json} (room : depth < maxDepth)
    (sound : ∀ v ∈ vs, v.toDoc.isSound (depth + 1) = true) :
    (toDoc (.arr vs)).isSound depth = true := by
  have items : areSound (depth + 1) (docs vs) = true := by
    induction vs with
    | nil => rfl
    | cons v vs ih =>
      have others := ih fun w h => sound w (List.mem_cons_of_mem v h)
      rw [docs, areSound, sound v List.mem_cons_self, others, Bool.and_self]
  simp [toDoc, Doc.isSound, room, items]

theorem isSound_obj {depth : Nat} {ms : List (String × Json)} (room : depth < maxDepth)
    (sound : ∀ m ∈ ms, m.2.toDoc.isSound (depth + 1) = true) :
    (toDoc (.obj ms)).isSound depth = true := by
  have members : membersAreSound (depth + 1) (memberDocs ms) = true := by
    induction ms with
    | nil => rfl
    | cons m ms ih =>
      have others := ih fun m' h => sound m' (List.mem_cons_of_mem m h)
      rw [memberDocs, membersAreSound, text?_written, sound m List.mem_cons_self, others]
      rfl
  simp [toDoc, Doc.isSound, room, members]

theorem StableAt.arr {depth : Nat} {vs : List Json} (room : depth < maxDepth)
    (stable : ∀ v ∈ vs, StableAt (depth + 1) v) : StableAt depth (.arr vs) := by
  have same : ofDocs? (docs vs) = some vs := by
    induction vs with
    | nil => rfl
    | cons v vs ih =>
      have others := ih fun w h => stable w (List.mem_cons_of_mem v h)
      simp [docs, ofDocs?, (stable v List.mem_cons_self).same, others]
  exact ⟨isSound_arr room fun v h => (stable v h).sound, by simp [toDoc, ofDoc?, same]⟩

theorem StableAt.obj {depth : Nat} {ms : List (String × Json)} (room : depth < maxDepth)
    (sorted : Sorted ms) (stable : ∀ m ∈ ms, StableAt (depth + 1) m.2) :
    StableAt depth (.obj ms) := by
  have same : ofMembers? [] (memberDocs ms) = some ms :=
    ofMembers?_memberDocs sorted fun m h => (stable m h).same
  exact ⟨isSound_obj room fun m h => (stable m h).sound, by simp [toDoc, ofDoc?, same]⟩

theorem areIntegral_iff {vs : List Json} : areIntegral vs = true ↔ ∀ v ∈ vs, v.isIntegral = true := by
  induction vs with
  | nil => simp [areIntegral]
  | cons v vs ih => simp [areIntegral, ih]

private theorem membersAreIntegral_iff {ms : List (String × Json)} :
    membersAreIntegral ms = true ↔ ∀ m ∈ ms, m.2.isIntegral = true := by
  induction ms with
  | nil => simp [membersAreIntegral]
  | cons m ms ih => rw [membersAreIntegral, Bool.and_eq_true, ih, List.forall_mem_cons]

private theorem stableAt_number {depth : Nat} {n : Numeral} {v : Json}
    (value : ofDoc? (.number n) = some v) (integral : v.isIntegral = true) : StableAt depth v := by
  rw [ofDoc?] at value
  split at value
  case h_1 i int =>
    obtain rfl := Option.some.inj value
    have read : (Numeral.ofInt i).int? = some i := int?_ofInt integral
    exact ⟨by simp [toDoc, Doc.isSound, Numeral.isNumber, read], by simp [toDoc, ofDoc?, read]⟩
  case h_2 =>
    obtain ⟨x, -, rfl⟩ := Option.map_eq_some_iff.mp value
    obtain rfl : x = negativeZero := by simpa [isIntegral] using integral
    exact ⟨by rw [toDoc_negativeZero]; rfl, by rw [toDoc_negativeZero]; rfl⟩

mutual

/-- What a document stands for is stable, as deep as the document is. -/
theorem stableAt_of_ofDoc? {depth : Nat} {v : Json} :
    ∀ d : Doc, d.isSound depth = true → ofDoc? d = some v → v.isIntegral = true → StableAt depth v
  | .null, _, value, _ => by
    obtain rfl := Option.some.inj value
    exact ⟨rfl, rfl⟩
  | .bool b, _, value, _ => by
    obtain rfl := Option.some.inj value
    exact ⟨rfl, rfl⟩
  | .number n, _, value, integral => stableAt_number value integral
  | .string s, _, value, _ => by
    obtain ⟨t, -, rfl⟩ := Option.map_eq_some_iff.mp value
    exact ⟨by simp [toDoc, Doc.isSound, text?_written], by simp [toDoc, ofDoc?, text?_written]⟩
  | .array ds, sound, value, integral => by
    simp only [Doc.isSound, Bool.and_eq_true, decide_eq_true_eq] at sound
    obtain ⟨vs, values, rfl⟩ := Option.map_eq_some_iff.mp value
    exact .arr sound.1 (stableAt_of_ofDocs? ds sound.2 values (areIntegral_iff.mp integral))
  | .object ds, sound, value, integral => by
    simp only [Doc.isSound, Bool.and_eq_true, decide_eq_true_eq] at sound
    obtain ⟨ms, members, rfl⟩ := Option.map_eq_some_iff.mp value
    have sorted : Sorted ms := Sorted.ofMembers? List.Pairwise.nil members
    refine .obj sound.1 sorted fun m hm => ?_
    obtain h | ⟨d, hd, value⟩ := mem_of_ofMembers? members hm
    · nomatch h
    · exact stableAt_of_mem_members ds sound.2 d hd value (membersAreIntegral_iff.mp integral m hm)

theorem stableAt_of_ofDocs? {depth : Nat} {vs : List Json} :
    ∀ ds : List Doc, areSound depth ds = true → ofDocs? ds = some vs →
      (∀ v ∈ vs, v.isIntegral = true) → ∀ v ∈ vs, StableAt depth v
  | [], _, values, _ => by
    obtain rfl := Option.some.inj values
    exact fun v h => nomatch h
  | d :: ds, sound, values, integral => by
    simp only [areSound, Bool.and_eq_true] at sound
    simp only [ofDocs?, Option.bind_eq_bind, Option.bind_eq_some_iff, Option.pure_def,
      Option.some.injEq] at values
    obtain ⟨w, value, ws, values, rfl⟩ := values
    have first := stableAt_of_ofDoc? d sound.1 value (integral w List.mem_cons_self)
    have others := stableAt_of_ofDocs? ds sound.2 values fun v h =>
      integral v (List.mem_cons_of_mem w h)
    exact List.forall_mem_cons.mpr ⟨first, others⟩

theorem stableAt_of_mem_members {depth : Nat} {v : Json} :
    ∀ ds : List (Literal × Doc), membersAreSound depth ds = true → ∀ d ∈ ds,
      ofDoc? d.2 = some v → v.isIntegral = true → StableAt depth v
  | [], _, _, h, _, _ => nomatch h
  | (k, d) :: ds, sound, d', hd', value, integral => by
    simp only [membersAreSound, Bool.and_eq_true] at sound
    rcases List.mem_cons.mp hd' with rfl | h
    · exact stableAt_of_ofDoc? d sound.1.2 value integral
    · exact stableAt_of_mem_members ds sound.2 d' h value integral

end

end MeetingInsights.Json
