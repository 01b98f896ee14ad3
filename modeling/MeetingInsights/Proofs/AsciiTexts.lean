import MeetingInsights.Text.Lowercase

/-! # ASCII text

What holds of ASCII characters is decided for each of them. None of them depends in lower case on
what stands around it, so ASCII text is lowered letter by letter.
-/

namespace MeetingInsights.Text

theorem forall_ascii {P : Char → Prop} (h : ∀ n < 128, P (Char.ofNat n)) (c : Char)
    (ascii : c.toNat < 128) : P c := by
  have hc := h c.toNat ascii
  rwa [Char.ofNat_toNat] at hc

theorem toLower_of_not_ascii {c : Char} (large : ¬ c.toNat < 128) : c.toLower = c := by
  refine dif_neg fun upper => large ?_
  exact Nat.lt_of_le_of_lt (UInt32.le_iff_toNat_le.mp upper.2) (by decide)

def Ascii (cs : List Char) : Prop := ∀ c ∈ cs, c.toNat < 128

instance (cs : List Char) : Decidable (Ascii cs) :=
  List.decidableBAll (fun c : Char => c.toNat < 128) cs

theorem Ascii.map {f : Char → Char} (keeps : ∀ c, c.toNat < 128 → (f c).toNat < 128)
    {cs : List Char} (ascii : Ascii cs) : Ascii (cs.map f) :=
  List.forall_mem_map.mpr fun c hc => keeps c (ascii c hc)

private theorem lowerAt_of_ascii {c : Char} (ascii : c.toNat < 128) (before after : List Char) :
    lowerAt before c after = [c.toLower] := by
  obtain ⟨notSigma, notDottedI, lowered⟩ :=
    forall_ascii (P := fun c => c ≠ 'Σ' ∧ c ≠ 'İ' ∧ lowerChar c = c.toLower) (by decide +kernel) c
      ascii
  rw [lowerAt, if_neg notSigma, if_neg notDottedI, lowered]

private theorem lowerFrom_of_ascii {before cs : List Char} (ascii : Ascii cs) :
    lowerFrom before cs = cs.map Char.toLower := by
  induction cs generalizing before with
  | nil => rfl
  | cons c cs ih =>
    obtain ⟨first, rest⟩ := List.forall_mem_cons.mp ascii
    rw [lowerFrom, lowerAt_of_ascii first, ih rest, List.singleton_append, List.map_cons]

theorem lowerChars_of_ascii {cs : List Char} (ascii : Ascii cs) :
    lowerChars cs = cs.map Char.toLower := lowerFrom_of_ascii ascii

end MeetingInsights.Text
