import MeetingInsights.Proofs.MeetingTexts
import MeetingInsights.Wire.Catalog

/-! # Texts of opportunities, themes and evidence

What is written for an opportunity, a theme, a piece of evidence, their drafts and a roster entry is
read back, as soon as the dates in it exist and a count of evidence fits into 64 bits.
-/

namespace MeetingInsights

open Json

namespace Opportunity

/-- What the text of an opportunity keeps: dates that exist, and a count of 64 bits. -/
structure IsLegible (o : Opportunity) : Prop where
  created : o.createdAt.Valid
  updated : o.updatedAt.Valid
  count : IsSigned64 o.evidenceCount

theorem slots_toJson {depth : Nat} (room : depth < maxDepth) (o : Opportunity) :
    slots? fieldNames depth o.toJson.toDoc =
      some [.of (some o.id.toJson), .of (some (.str o.userSegment)), .of (some (.str o.struggle)),
        .of (o.whyItMatters.map .str), .of (o.workaround.map .str), .of (o.themeId.map Uuid.toJson),
        .of (o.themeName.map .str), .of (some (.int o.evidenceCount)),
        .of (some o.createdAt.toJson), .of (some o.updatedAt.toJson)] := by
  rw [toJson, slots?_toDoc room (by decide) ?_]
  · simp [fieldNames, List.lookup_append, lookup_cons, lookup_optional]
  · simp only [List.map_append]
    exact ((((List.Sublist.append (.refl _) (keys_optional _ _)).append (keys_optional _ _)).append
      (keys_optional _ _)).append (keys_optional _ _)).append (.refl _)

theorem decode_toJson {depth : Nat} (room : depth < maxDepth) {o : Opportunity}
    (legible : o.IsLegible) : decode depth o.toJson.toDoc = some o := by
  simp [decode, slots_toJson room, Timestamp.decode_toJson, legible.created, legible.updated,
    signed64_toDoc _ legible.count]

theorem isLegible_of_decode {depth : Nat} {d : Doc} {o : Opportunity}
    (h : decode depth d = some o) : o.IsLegible := by
  simp only [decode, Option.bind_eq_bind, Option.bind_eq_some_iff] at h
  obtain ⟨slots, -, h⟩ := h
  split at h
  case h_2 => cases h
  case h_1 =>
    simp only [Option.bind_eq_some_iff, Option.pure_def, Option.some.injEq] at h
    obtain ⟨_, -, _, -, _, -, _, -, _, -, _, -, _, -, _, count, _, created, _, updated, rfl⟩ := h
    obtain ⟨d, count⟩ := eq_some_of_required count
    exact ⟨Timestamp.valid_of_required created, Timestamp.valid_of_required updated,
      isSigned64_of_signed64 count⟩

theorem isIntegral_toJson {o : Opportunity} (legible : o.IsLegible) :
    o.toJson.isIntegral = true := by
  simp [toJson, Uuid.toJson, Timestamp.toJson, isIntegral, membersAreIntegral, legible.count.fits]

end Opportunity

namespace OpportunityDraft

theorem slots_toJson {depth : Nat} (room : depth < maxDepth) (o : OpportunityDraft) :
    slots? fieldNames depth o.toJson.toDoc =
      some [.of (some (.str o.userSegment)), .of (some (.str o.struggle)),
        .of (some (nullable o.whyItMatters)), .of (some (nullable o.workaround)),
        .of (some (nullable (o.themeId.map Uuid.toText)))] := by
  rw [toJson, slots?_toDoc room (by decide) ?_]
  · simp [fieldNames, lookup_cons]
  · exact .refl _

theorem decode_toJson {depth : Nat} (room : depth < maxDepth) (o : OpportunityDraft) :
    decode depth o.toJson.toDoc = some o := by
  simp [decode, slots_toJson room]

theorem isIntegral_toJson (o : OpportunityDraft) : o.toJson.isIntegral = true := by
  simp [toJson, isIntegral, membersAreIntegral]

end OpportunityDraft

namespace Theme

theorem decode_toJson {depth : Nat} (room : depth < maxDepth) {t : Theme}
    (created : t.createdAt.Valid) : decode depth t.toJson.toDoc = some t := by
  have slots : slots? fieldNames depth t.toJson.toDoc =
      some [.of (some t.id.toJson), .of (some (.str t.name)), .of (some t.createdAt.toJson)] := by
    rw [toJson, slots?_toDoc room (by decide) ?_]
    · simp [fieldNames, lookup_cons]
    · exact .refl _
  simp [decode, slots, Timestamp.decode_toJson, created]

theorem created_of_decode {depth : Nat} {d : Doc} {t : Theme} (h : decode depth d = some t) :
    t.createdAt.Valid := by
  simp only [decode, Option.bind_eq_bind, Option.bind_eq_some_iff] at h
  obtain ⟨slots, -, h⟩ := h
  split at h
  case h_2 => cases h
  case h_1 =>
    simp only [Option.bind_eq_some_iff, Option.pure_def, Option.some.injEq] at h
    obtain ⟨_, -, _, -, _, created, rfl⟩ := h
    exact Timestamp.valid_of_required created

theorem isIntegral_toJson (t : Theme) : t.toJson.isIntegral = true := by
  simp [toJson, Uuid.toJson, Timestamp.toJson, isIntegral, membersAreIntegral]

end Theme

namespace Evidence

theorem slots_toJson {depth : Nat} (room : depth < maxDepth) (e : Evidence) :
    slots? fieldNames depth e.toJson.toDoc =
      some [.of (some e.id.toJson), .of (some e.opportunityId.toJson),
        .of (some e.meetingId.toJson), .of (some (.str e.quote)), .of (e.context.map .str),
        .of (some e.createdAt.toJson)] := by
  rw [toJson, slots?_toDoc room (by decide) ?_]
  · simp [fieldNames, List.lookup_append, lookup_cons, lookup_optional]
  · simp only [List.map_append]
    exact (List.Sublist.append (.refl _) (keys_optional _ _)).append (.refl _)

theorem decode_toJson {depth : Nat} (room : depth < maxDepth) {e : Evidence}
    (created : e.createdAt.Valid) : decode depth e.toJson.toDoc = some e := by
  simp [decode, slots_toJson room, Timestamp.decode_toJson, created]

theorem created_of_decode {depth : Nat} {d : Doc} {e : Evidence} (h : decode depth d = some e) :
    e.createdAt.Valid := by
  simp only [decode, Option.bind_eq_bind, Option.bind_eq_some_iff] at h
  obtain ⟨slots, -, h⟩ := h
  split at h
  case h_2 => cases h
  case h_1 =>
    simp only [Option.bind_eq_some_iff, Option.pure_def, Option.some.injEq] at h
    obtain ⟨_, -, _, -, _, -, _, -, _, -, _, created, rfl⟩ := h
    exact Timestamp.valid_of_required created

theorem isIntegral_toJson (e : Evidence) : e.toJson.isIntegral = true := by
  simp [toJson, Uuid.toJson, Timestamp.toJson, isIntegral, membersAreIntegral]

end Evidence

namespace EvidenceDraft

theorem decode_toJson {depth : Nat} (room : depth < maxDepth) (e : EvidenceDraft) :
    decode depth e.toJson.toDoc = some e := by
  have slots : slots? fieldNames depth e.toJson.toDoc =
      some [.of (some e.opportunityId.toJson), .of (some e.meetingId.toJson),
        .of (some (.str e.quote)), .of (some (nullable e.context))] := by
    rw [toJson, slots?_toDoc room (by decide) ?_]
    · simp [fieldNames, lookup_cons]
    · exact .refl _
  simp [decode, slots]

theorem isIntegral_toJson (e : EvidenceDraft) : e.toJson.isIntegral = true := by
  simp [toJson, Uuid.toJson, isIntegral, membersAreIntegral]

end EvidenceDraft

namespace RosterEntry

theorem decode_toJson {depth : Nat} (room : depth < maxDepth) (r : RosterEntry) :
    decode depth r.toJson.toDoc = some r := by
  have slots : slots? fieldNames depth r.toJson.toDoc =
      some [.of (some r.opportunityId.toJson), .of (some (.str r.struggle)),
        .of (r.themeName.map .str)] := by
    rw [toJson, slots?_toDoc room (by decide) ?_]
    · simp [fieldNames, lookup_cons, lookup_optional]
    · simp only [List.map_append]
      exact List.Sublist.append (.refl _) (keys_optional _ _)
  simp [decode, slots]

theorem isIntegral_toJson (r : RosterEntry) : r.toJson.isIntegral = true := by
  simp [toJson, Uuid.toJson, isIntegral, membersAreIntegral]

end RosterEntry

end MeetingInsights
