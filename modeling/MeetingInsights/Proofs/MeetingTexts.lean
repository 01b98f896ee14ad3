import MeetingInsights.Proofs.IdentifierTexts
import MeetingInsights.Proofs.RecordFields
import MeetingInsights.Proofs.TimestampTexts
import MeetingInsights.Wire.Meeting

/-! # Texts of meetings

A meeting and the draft of one are read back from what is written for them, as soon as their dates
exist and their metadata is what a text can bring.
-/

namespace MeetingInsights

open Json

namespace Uuid

@[simp]
theorem decode_toJson (depth : Nat) (u : Uuid) : decode depth u.toJson.toDoc = some u := by
  rw [decode, toJson, text_toDoc, Option.bind_some, parse?_toText]

@[simp]
theorem nullable_toJson (depth : Nat) (o : Option Uuid) :
    Slot.nullable decode depth (.of (o.map toJson)) = some o :=
  nullable_of_map (fun u _ => decode_toJson depth u) fun _ _ h => nomatch h

@[simp]
theorem nullable_toText (depth : Nat) (o : Option Uuid) :
    Slot.nullable decode depth (.of (some (nullable (o.map toText)))) = some o := by
  rw [Json.nullable, Option.map_map]
  exact nullable_of_getD (fun u _ => decode_toJson depth u) fun _ _ h => nomatch h

end Uuid

namespace Timestamp

theorem decode_toJson (depth : Nat) {t : Timestamp} (valid : t.Valid) :
    decode depth t.toJson.toDoc = some t := by
  rw [decode, toJson, text_toDoc, Option.bind_some, parse?_toText valid]

theorem valid_of_decode {depth : Nat} {d : Doc} {t : Timestamp} (h : decode depth d = some t) :
    t.Valid := by
  obtain ⟨s, -, read⟩ := Option.bind_eq_some_iff.mp h
  exact valid_of_parse? read

theorem nullable_toJson (depth : Nat) {o : Option Timestamp} (valid : ∀ t ∈ o, t.Valid) :
    Slot.nullable decode depth (.of (o.map toJson)) = some o :=
  nullable_of_map (fun t h => decode_toJson depth (valid t h)) fun _ _ h => nomatch h

theorem valid_of_required {depth : Nat} {slot : Slot} {t : Timestamp}
    (h : slot.required decode depth = some t) : t.Valid := by
  obtain ⟨d, read⟩ := eq_some_of_required h
  exact valid_of_decode read

private theorem valid_of_nullable {depth : Nat} {slot : Slot} {o : Option Timestamp}
    (h : slot.nullable decode depth = some o) : ∀ t ∈ o, t.Valid := by
  intro t ht
  obtain ⟨d, -, read⟩ := eq_some_of_nullable h t ht
  exact valid_of_decode read

end Timestamp

@[simp]
theorem Source.decode_toJson (depth : Nat) (s : Source) : decode depth s.toJson.toDoc = some s := by
  rw [decode, toJson, word_toDoc]
  cases s <;> decide

@[simp]
theorem Status.decode_toJson (depth : Nat) (s : Status) : decode depth s.toJson.toDoc = some s := by
  rw [decode, toJson, word_toDoc]
  cases s <;> decide

namespace Meeting

/-- What the text of a meeting keeps: dates that exist, and metadata that a text can bring. -/
structure IsLegible (m : Meeting) (depth : Nat) : Prop where
  created : m.createdAt.Valid
  processed : ∀ t ∈ m.processedAt, t.Valid
  updated : m.updatedAt.Valid
  metadata : Keeps (depth + 1) m.metadata

theorem slots_toJson {depth : Nat} (room : depth < maxDepth) (m : Meeting) :
    slots? fieldNames depth m.toJson.toDoc =
      some [.of (some m.id.toJson), .of (some (.str m.title)), .of (some (.str m.rawNotes)),
        .of (some m.source.toJson), .of m.metadata, .of (some m.status.toJson),
        .of (m.errorMessage.map .str), .of (some m.createdAt.toJson),
        .of (m.processedAt.map Timestamp.toJson), .of (some m.updatedAt.toJson)] := by
  rw [toJson, slots?_toDoc room (by decide) ?_]
  · simp [fieldNames, List.lookup_append, lookup_cons, lookup_optional]
  · simp only [List.map_append]
    exact (((((List.Sublist.append (.refl _) (keys_optional _ _)).append (.refl _)).append
      (keys_optional _ _)).append (.refl _)).append (keys_optional _ _)).append (.refl _)

theorem decode_toJson {depth : Nat} (room : depth < maxDepth) {m : Meeting}
    (legible : m.IsLegible depth) : decode depth m.toJson.toDoc = some m := by
  simp [decode, slots_toJson room, Timestamp.decode_toJson, legible.created, legible.updated,
    Timestamp.nullable_toJson _ legible.processed, legible.metadata.nullable]

theorem isLegible_of_decode {depth : Nat} {d : Doc} {m : Meeting} (h : decode depth d = some m)
    (integral : ∀ v ∈ m.metadata, v.isIntegral = true) : m.IsLegible depth := by
  simp only [decode, Option.bind_eq_bind, Option.bind_eq_some_iff] at h
  obtain ⟨slots, -, h⟩ := h
  split at h
  case h_2 => cases h
  case h_1 =>
    simp only [Option.bind_eq_some_iff, Option.pure_def, Option.some.injEq] at h
    obtain ⟨_, -, _, -, _, -, _, -, _, metadata, _, -, _, -, _, created, _, processed, _, updated,
      same⟩ := h
    subst same
    exact ⟨Timestamp.valid_of_required created, Timestamp.valid_of_nullable processed,
      Timestamp.valid_of_required updated, .of_nullable metadata integral⟩

theorem isIntegral_toJson {m : Meeting} (integral : ∀ v ∈ m.metadata, v.isIntegral = true) :
    m.toJson.isIntegral = true := by
  simpa [toJson, Uuid.toJson, Source.toJson, Status.toJson, Timestamp.toJson, isIntegral,
    membersAreIntegral] using integral

end Meeting

namespace MeetingDraft

theorem slots_toJson {depth : Nat} (room : depth < maxDepth) (m : MeetingDraft) :
    slots? fieldNames depth m.toJson.toDoc =
      some [.of (some (.str m.title)), .of (some (.str m.rawNotes)), .of (some m.source.toJson),
        .of m.metadata] := by
  rw [toJson, slots?_toDoc room (by decide) ?_]
  · simp [fieldNames, lookup_cons, lookup_optional]
  · simp only [List.map_append]
    exact List.Sublist.append (.refl _) (keys_optional _ _)

theorem decode_toJson {depth : Nat} (room : depth < maxDepth) {m : MeetingDraft}
    (metadata : Keeps (depth + 1) m.metadata) : decode depth m.toJson.toDoc = some m := by
  simp [decode, slots_toJson room, metadata.nullable]

theorem keeps_of_decode {depth : Nat} {d : Doc} {m : MeetingDraft} (h : decode depth d = some m)
    (integral : ∀ v ∈ m.metadata, v.isIntegral = true) : Keeps (depth + 1) m.metadata := by
  simp only [decode, Option.bind_eq_bind, Option.bind_eq_some_iff] at h
  obtain ⟨slots, -, h⟩ := h
  split at h
  case h_2 => cases h
  case h_1 =>
    simp only [Option.bind_eq_some_iff, Option.pure_def, Option.some.injEq] at h
    obtain ⟨_, -, _, -, _, -, _, metadata, same⟩ := h
    subst same
    obtain ⟨slot, read⟩ := nullable_of_nullableOrAbsent metadata
    exact .of_nullable read integral

theorem isIntegral_toJson {m : MeetingDraft} (integral : ∀ v ∈ m.metadata, v.isIntegral = true) :
    m.toJson.isIntegral = true := by
  simpa [toJson, Source.toJson, isIntegral, membersAreIntegral] using integral

end MeetingDraft

end MeetingInsights
