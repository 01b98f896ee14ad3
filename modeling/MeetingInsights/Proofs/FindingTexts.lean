import MeetingInsights.Proofs.RecordFields
import MeetingInsights.Wire.Envelope

/-! # Texts of findings

Every finding is read back from what is written for it, and every list of findings from the answer
that holds them, whatever its texts are. The tag of a finding is written first and is no field of its
kind.
-/

namespace MeetingInsights

open Json

namespace Quote

theorem slots_toJson {depth : Nat} (room : depth < maxDepth) (q : Quote) :
    slots? fieldNames depth q.toJson.toDoc =
      some [.of (some (.str q.text)), .of (q.context.map .str)] := by
  rw [toJson, slots?_toDoc room (by decide) ?_]
  · simp [fieldNames, lookup_cons, lookup_optional]
  · exact (keys_optional _ _).cons_cons _

theorem decode_toJson {depth : Nat} (room : depth < maxDepth) (q : Quote) :
    decode depth q.toJson.toDoc = some q := by
  simp [decode, slots_toJson room]

theorem isIntegral_toJson (q : Quote) : q.toJson.isIntegral = true := by
  simp [toJson, isIntegral, membersAreIntegral]

theorem isSound_toJson {depth : Nat} (room : depth < maxDepth) (q : Quote) :
    q.toJson.toDoc.isSound depth = true := by
  refine isSound_obj room ?_
  cases q.context <;> simp [Json.optional]

theorem list_toJson {depth : Nat} (room : depth + 1 < maxDepth) (qs : List Quote) :
    list decode depth (toDoc (.arr (qs.map toJson))) = some qs :=
  list_toDoc (Nat.lt_of_succ_lt room) fun q _ => decode_toJson room q

theorem areIntegral_toJson (qs : List Quote) : areIntegral (qs.map toJson) = true := by
  simp [areIntegral_iff, isIntegral_toJson]

theorem isSound_list {depth : Nat} (room : depth + 1 < maxDepth) (qs : List Quote) :
    (toDoc (.arr (qs.map toJson))).isSound depth = true := by
  refine isSound_arr (Nat.lt_of_succ_lt room) fun v h => ?_
  obtain ⟨q, -, rfl⟩ := List.mem_map.mp h
  exact isSound_toJson room q

end Quote

namespace Match

theorem keys_members (m : Match) : m.members.map Prod.fst = fieldNames := rfl

theorem ofSlots?_members {depth : Nat} (room : depth + 1 < maxDepth) (m : Match) :
    ofSlots? depth (fieldNames.map fun n => Slot.of (m.members.lookup n)) = some m := by
  have slots : fieldNames.map (fun n => Slot.of (m.members.lookup n)) =
      [.of (some (nullable m.reference)), .of (some (.arr (m.quotes.map Quote.toJson)))] := by
    simp [fieldNames, members, lookup_cons]
  simp [slots, ofSlots?, Quote.list_toJson room]

theorem decode_toJson {depth : Nat} (room : depth + 2 < maxDepth) (m : Match) :
    decode depth m.toJson.toDoc = some m := by
  rw [decode, toJson, slots?_toDoc (by omega) (by decide) ?_]
  · exact ofSlots?_members room m
  · exact .refl _

theorem membersAreIntegral_members (m : Match) : membersAreIntegral m.members = true := by
  simp [members, membersAreIntegral, isIntegral, Quote.areIntegral_toJson]

theorem isSound_of_mem_members {depth : Nat} (room : depth + 1 < maxDepth) (m : Match) :
    ∀ member ∈ m.members, member.2.toDoc.isSound depth = true := by
  simp [members, Quote.isSound_list room]

end Match

namespace Proposal

theorem keys_members (p : Proposal) : p.members.map Prod.fst = fieldNames := rfl

theorem ofSlots?_members {depth : Nat} (room : depth + 1 < maxDepth) (p : Proposal) :
    ofSlots? depth (fieldNames.map fun n => Slot.of (p.members.lookup n)) = some p := by
  have slots : fieldNames.map (fun n => Slot.of (p.members.lookup n)) =
      [.of (some (.str p.userSegment)), .of (some (.str p.struggle)),
        .of (some (nullable p.whyItMatters)), .of (some (nullable p.workaround)),
        .of (some (nullable p.theme)), .of (some (.arr (p.quotes.map Quote.toJson)))] := by
    simp [fieldNames, members, lookup_cons]
  simp [slots, ofSlots?, Quote.list_toJson room]

theorem decode_toJson {depth : Nat} (room : depth + 2 < maxDepth) (p : Proposal) :
    decode depth p.toJson.toDoc = some p := by
  rw [decode, toJson, slots?_toDoc (by omega) (by decide) ?_]
  · exact ofSlots?_members room p
  · exact .refl _

theorem membersAreIntegral_members (p : Proposal) : membersAreIntegral p.members = true := by
  simp [members, membersAreIntegral, isIntegral, Quote.areIntegral_toJson]

theorem isSound_of_mem_members {depth : Nat} (room : depth + 1 < maxDepth) (p : Proposal) :
    ∀ member ∈ p.members, member.2.toDoc.isSound depth = true := by
  simp [members, Quote.isSound_list room]

end Proposal

namespace Finding

private theorem splitTag_memberDocs {ms : List (String × Json)}
    (untagged : tagKey ∉ ms.map Prod.fst) : splitTag (memberDocs ms) = ([], memberDocs ms) := by
  induction ms with
  | nil => rfl
  | cons m ms ih =>
    rw [List.map_cons, List.mem_cons, not_or] at untagged
    have other : some m.1 ≠ some tagKey := fun same => untagged.1 (Option.some.inj same).symm
    simp [memberDocs, splitTag, ih untagged.2, text?_written, other]

theorem decode_tagged {depth : Nat} {kind : String} {ms : List (String × Json)}
    (untagged : tagKey ∉ ms.map Prod.fst)
    (sound : (toDoc (.obj ((tagKey, .str kind) :: ms))).isSound depth = true) :
    decode depth (toDoc (.obj ((tagKey, .str kind) :: ms))) =
      ofTag? (toDoc (.str kind)) (fun names => slotsByName names (memberDocs ms)) (depth + 1) := by
  have split : splitTag (memberDocs ((tagKey, .str kind) :: ms)) =
      ([toDoc (.str kind)], memberDocs ms) := by
    simp [memberDocs, splitTag, splitTag_memberDocs untagged, text?_written]
  rw [toDoc] at sound ⊢
  simp only [decode, sound, split, if_true]

theorem isIntegral_toJson (f : Finding) : f.toJson.isIntegral = true := by
  cases f with
  | matched m => simp [toJson, isIntegral, membersAreIntegral, m.membersAreIntegral_members]
  | proposed p => simp [toJson, isIntegral, membersAreIntegral, p.membersAreIntegral_members]

theorem isSound_toJson {depth : Nat} (room : depth + 2 < maxDepth) (f : Finding) :
    f.toJson.toDoc.isSound depth = true := by
  refine isSound_obj (by omega) (List.forall_mem_cons.mpr ⟨isSound_str _ _, ?_⟩)
  cases f with
  | matched m => exact m.isSound_of_mem_members room
  | proposed p => exact p.isSound_of_mem_members room

theorem decode_toJson {depth : Nat} (room : depth + 2 < maxDepth) (f : Finding) :
    decode depth f.toJson.toDoc = some f := by
  cases f with
  | matched m =>
    have slots : slotsByName Match.fieldNames (memberDocs m.members) =
        some (Match.fieldNames.map fun n => Slot.of (m.members.lookup n)) :=
      slotsByName_memberDocs (by decide) (by rw [m.keys_members]; decide)
    refine (decode_tagged (by rw [m.keys_members]; decide) (isSound_toJson room (.matched m))).trans ?_
    simp [ofTag?, kind, slots, Match.ofSlots?_members room]
  | proposed p =>
    have slots : slotsByName Proposal.fieldNames (memberDocs p.members) =
        some (Proposal.fieldNames.map fun n => Slot.of (p.members.lookup n)) :=
      slotsByName_memberDocs (by decide) (by rw [p.keys_members]; decide)
    refine (decode_tagged (by rw [p.keys_members]; decide) (isSound_toJson room (.proposed p))).trans ?_
    simp [ofTag?, kind, slots, Proposal.ofSlots?_members room]

end Finding

namespace Envelope

theorem isIntegral_toJson (fs : List Finding) : (toJson fs).isIntegral = true := by
  simp [toJson, isIntegral, membersAreIntegral, areIntegral_iff, Finding.isIntegral_toJson]

theorem decode_toJson (fs : List Finding) : decode 0 (toJson fs).toDoc = some fs := by
  have slots : slots? fieldNames 0 (toJson fs).toDoc =
      some [.of (some (.arr (fs.map Finding.toJson)))] := by
    rw [toJson, slots?_toDoc (by decide) (by decide) ?_]
    · simp [fieldNames, lookup_cons]
    · exact .refl _
  have findings : list Finding.decode 1 (toDoc (.arr (fs.map Finding.toJson))) = some fs :=
    list_toDoc (by decide) fun f _ => f.decode_toJson (by decide)
  simp [decode, slots, findings]

theorem body_toText (ms : List (String × Json)) :
    body (Json.obj ms).toText = '{' :: writeMembers ms ++ ['}'] := by
  have trimmed : Text.trimChars ('{' :: writeMembers ms ++ ['}']) = '{' :: writeMembers ms ++ ['}'] :=
    Text.trimChars_of_ends (writeMembers ms) (by decide) (by decide)
  rw [body, toText, String.toList_ofList, write, trimmed, unfence]
  exact if_neg (by simp [fence])

/-- Findings survive being written and read. -/
theorem read_toText (fs : List Finding) : read (toJson fs).toText = .ok fs := by
  have text : String.ofList (body (toJson fs).toText) = (toJson fs).toText := by
    rw [toJson, body_toText, toText, write]
  have findings : decode? decode (toJson fs).toText = some fs := by
    rw [decode?_toText decode (isIntegral_toJson fs), decode_toJson]
  have found : (body (toJson fs).toText).isEmpty = false := by
    rw [toJson, body_toText]
    rfl
  simp only [read, found, text, findings, Bool.false_eq_true, if_false]

end Envelope

end MeetingInsights
