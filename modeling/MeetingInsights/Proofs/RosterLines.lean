import MeetingInsights.Proofs.RosterReferences
import MeetingInsights.Proofs.ServicesSideBySide

/-! # The lines of a roster

A roster is shown to the provider as a text with a line for each entry. What is stored may hold
newlines, and those that are shown part the line of an entry into several. So the lines are the
entries in order just if no newline is shown.
-/

namespace MeetingInsights

namespace Text

/-- The lines of a text, as newlines part it. -/
def lines (text : String) : List String := (text.toList.splitOn '\n').map String.ofList

private theorem lines_append (s t : String) : lines (s ++ "\n" ++ t) = lines s ++ lines t := by
  have newline : ("\n" : String).toList = ['\n'] := rfl
  simp only [lines, String.toList_append, List.append_assoc, newline, List.singleton_append,
    List.splitOn_append_cons_self, List.map_append]

private theorem lines_intercalate {ls : List String} (nonempty : ls ≠ []) :
    lines (String.intercalate "\n" ls) = ls.flatMap lines := by
  induction ls with
  | nil => exact absurd rfl nonempty
  | cons l ls ih =>
    cases ls with
    | nil => simp
    | cons l' ls =>
      rw [String.intercalate_cons_cons, lines_append, ih (List.cons_ne_nil _ _),
        List.flatMap_cons (x := l)]

theorem length_lines (text : String) : (lines text).length = text.toList.count '\n' + 1 := by
  rw [lines, List.length_map, List.splitOn]
  induction text.toList with
  | nil => rfl
  | cons c cs ih =>
    rw [List.splitOnP_cons_eq_if_modifyHead, List.count_cons]
    split
    · rw [List.length_cons, ih]
    · rw [List.length_modifyHead, ih, Nat.add_zero]

private theorem lines_ne_nil (text : String) : lines text ≠ [] := by
  rw [← List.length_pos_iff, length_lines]
  exact Nat.succ_pos _

theorem lines_append_of_notMem {s : String} (unbroken : '\n' ∉ s.toList) (t : String) :
    lines (s ++ t) = (lines t).modifyHead (s ++ ·) := by
  have parts : ∀ cs : List Char, '\n' ∉ cs →
      (cs ++ t.toList).splitOn '\n' = (t.toList.splitOn '\n').modifyHead (cs ++ ·) := by
    intro cs unbroken
    induction cs with
    | nil => exact (congrFun List.modifyHead_id _).symm
    | cons c cs ih =>
      obtain ⟨hc, hcs⟩ := not_or.mp (mt List.mem_cons.mpr unbroken)
      have other : (c == '\n') = false := beq_false_of_ne (Ne.symm hc)
      rw [List.splitOn] at ih ⊢
      rw [List.cons_append, List.splitOnP_cons_eq_if_modifyHead, if_neg (by simp [other]), ih hcs,
        List.modifyHead_modifyHead]
      rfl
  rw [lines, String.toList_append, parts _ unbroken, lines]
  cases t.toList.splitOn '\n' with
  | nil => rfl
  | cons cs rest => simp [String.ofList_append]

private theorem lines_of_notMem {text : String} (unbroken : '\n' ∉ text.toList) :
    lines text = [text] := by
  have whole := lines_append_of_notMem unbroken ""
  rw [String.append_empty] at whole
  rw [whole]
  exact congrArg (fun l => [l]) String.append_empty

end Text

namespace Prompt

variable {roster : List RosterEntry}

/-- What a roster line shows of a struggle. -/
def shownStruggle (r : RosterEntry) : String := Text.truncateWithEllipsis r.struggle struggleLimit

private theorem length_shownStruggle_le (r : RosterEntry) :
    (shownStruggle r).length ≤ struggleLimit :=
  Text.length_truncateWithEllipsis_le (by decide)

/-- How many newlines the line of an entry shows, in the struggle and in the name of the theme. -/
def shownBreaks (r : RosterEntry) : Nat :=
  (shownStruggle r).toList.count '\n' + (r.themeName.getD "").toList.count '\n'

theorem shownBreaks_eq_zero_iff {r : RosterEntry} :
    shownBreaks r = 0 ↔
      '\n' ∉ (shownStruggle r).toList ∧ '\n' ∉ (r.themeName.getD "").toList := by
  rw [shownBreaks, Nat.add_eq_zero_iff, List.count_eq_zero, List.count_eq_zero]

theorem newline_notMem_toText (u : Uuid) : '\n' ∉ u.toText.toList := fun newline =>
  absurd (Uuid.isBlank_of_mem_toText newline) (by decide)

theorem count_rosterLine (r : RosterEntry) :
    (rosterLine r).toList.count '\n' = shownBreaks r := by
  have unbroken := List.count_eq_zero.mpr (newline_notMem_toText r.opportunityId)
  have mark : (" | " : String).toList.count '\n' = 0 := rfl
  simp only [rosterLine, shownBreaks, shownStruggle, String.toList_append, List.count_append,
    unbroken, mark, Nat.add_zero, Nat.zero_add]

theorem length_lines_rosterLine (r : RosterEntry) :
    (Text.lines (rosterLine r)).length = shownBreaks r + 1 := by
  rw [Text.length_lines, count_rosterLine]

/-- However many lines an entry has, the first of them is the one with its identifier. -/
theorem lineId_head_rosterLine (r : RosterEntry) :
    ∃ first rest, Text.lines (rosterLine r) = first :: rest ∧
      lineId first = r.opportunityId.toText := by
  have unbroken : '\n' ∉ (r.opportunityId.toText ++ " | ").toList := by
    rw [String.toList_append, List.mem_append, not_or]
    exact ⟨newline_notMem_toText _, by decide⟩
  have parted :=
    Text.lines_append_of_notMem unbroken (shownStruggle r ++ " | " ++ r.themeName.getD "")
  obtain ⟨first, rest, shown⟩ := List.exists_cons_of_ne_nil
    (Text.lines_ne_nil (shownStruggle r ++ " | " ++ r.themeName.getD ""))
  rw [shown, List.modifyHead_cons] at parted
  refine ⟨_, rest, ?_, lineId_append r.opportunityId first⟩
  rw [← String.append_assoc, ← parted]
  simp only [rosterLine, shownStruggle, String.append_assoc]

theorem lines_rosterText (nonempty : roster ≠ []) :
    Text.lines (rosterText roster) = roster.flatMap fun r => Text.lines (rosterLine r) := by
  have shown : roster.map rosterLine ≠ [] := by simpa using nonempty
  rw [rosterText, if_neg (by simpa using nonempty), Text.lines_intercalate shown, List.flatMap_map]

private theorem length_lines_rosterText (nonempty : roster ≠ []) :
    (Text.lines (rosterText roster)).length = roster.length + (roster.map shownBreaks).sum := by
  simp only [lines_rosterText nonempty, List.length_flatMap, length_lines_rosterLine]
  clear nonempty
  induction roster with
  | nil => rfl
  | cons r rs ih =>
    rw [List.map_cons, List.sum_cons, ih, List.length_cons, List.map_cons, List.sum_cons]
    omega

/-- A line begins with the identifier of an entry and what is shown of its struggle. -/
def BeginsFor (line : String) (r : RosterEntry) : Prop :=
  ∃ rest, line = r.opportunityId.toText ++ " | " ++ shownStruggle r ++ rest

private theorem beginsFor_rosterLine (r : RosterEntry) : BeginsFor (rosterLine r) r :=
  ⟨" | " ++ r.themeName.getD "", by simp only [rosterLine, shownStruggle, String.append_assoc]⟩

/-- A roster is shown with one line for each entry, in order, and what stands before the first space
of a line is the identifier of an entry. -/
structure OneLineEach (roster : List RosterEntry) : Prop where
  begins : List.Forall₂ BeginsFor (Text.lines (rosterText roster)) roster
  named : ∀ line ∈ Text.lines (rosterText roster), ∃ r ∈ roster,
    lineId line = r.opportunityId.toText

private theorem OneLineEach.of_unbroken (nonempty : roster ≠ [])
    (unbroken : ∀ r ∈ roster, shownBreaks r = 0) : OneLineEach roster := by
  have whole : Text.lines (rosterText roster) = roster.map rosterLine := by
    rw [lines_rosterText nonempty, List.map_eq_flatMap]
    refine List.flatMap_congr fun r hr => Text.lines_of_notMem ?_
    rw [← List.count_eq_zero, count_rosterLine, unbroken r hr]
  constructor
  · rw [whole, List.forall₂_map_left_iff, List.forall₂_same]
    exact fun r _ => beginsFor_rosterLine r
  · rw [whole]
    intro line hline
    obtain ⟨r, hr, rfl⟩ := List.mem_map.mp hline
    exact ⟨r, hr, lineId_rosterLine r⟩

/-- If the entries have one line each, no newline is shown, since each would make one line more. -/
theorem OneLineEach.unbroken (nonempty : roster ≠ []) (each : OneLineEach roster) :
    ∀ r ∈ roster, shownBreaks r = 0 := by
  intro r hr
  have length := length_lines_rosterText nonempty
  rw [each.begins.length_eq, Nat.left_eq_add, List.sum_eq_zero_iff_forall_eq_nat] at length
  exact length _ (List.mem_map_of_mem hr)

/-- The lines of a roster are those of its entries in order, each led by the identifier of the entry
and with one line more for each newline that is shown. So the entries have one line each just if
none is shown. -/
theorem oneLineEach_iff_unbroken (nonempty : roster ≠ []) :
    Text.lines (rosterText roster) = (roster.flatMap fun r => Text.lines (rosterLine r)) ∧
      (∀ r ∈ roster, (shownStruggle r).length ≤ struggleLimit ∧
        (Text.lines (rosterLine r)).length = shownBreaks r + 1 ∧
        ∃ first rest, Text.lines (rosterLine r) = first :: rest ∧
          lineId first = r.opportunityId.toText) ∧
      (OneLineEach roster ↔ ∀ r ∈ roster,
        '\n' ∉ (shownStruggle r).toList ∧ '\n' ∉ (r.themeName.getD "").toList) := by
  refine ⟨lines_rosterText nonempty, fun r _ => ⟨length_shownStruggle_le r,
    length_lines_rosterLine r, lineId_head_rosterLine r⟩, fun each r hr => ?_, fun unbroken => ?_⟩
  · exact shownBreaks_eq_zero_iff.mp (each.unbroken nonempty r hr)
  · exact .of_unbroken nonempty fun r hr => shownBreaks_eq_zero_iff.mpr (unbroken r hr)

def shortRoster : List RosterEntry :=
  [⟨default, "Invoices are wrong", some "billing"⟩, ⟨⟨1⟩, "No single sign-on", none⟩]

theorem oneLineEach_shortRoster : shortRoster ≠ [] ∧ OneLineEach shortRoster := by
  have nonempty : shortRoster ≠ [] := List.cons_ne_nil _ _
  exact ⟨nonempty, (oneLineEach_iff_unbroken nonempty).2.2.mpr (by decide +kernel)⟩

/-- A struggle that goes on after a newline as the line of an entry does. -/
def forging : String :=
  "Invoices are wrong\n11111111-2222-4333-8444-555555555555 | Exports time out"

/-- Such a struggle is stored as it is, and then a line that is of no entry shows an identifier. -/
theorem not_one_line_each :
    ¬ ∀ (b : Backend) (provider : Provider) (meeting : Uuid) (fs : List Finding),
      b.store.Reachable → ((Merge.apply meeting fs).run provider b).2.store.roster ≠ [] →
        OneLineEach ((Merge.apply meeting fs).run provider b).2.store.roster := by
  intro each
  let findings : List Finding := [.proposed ⟨"Admins", forging, none, none, none, []⟩]
  have listed :
      ((Merge.apply default findings).run (fun _ _ => .ok []) Merge.stocked).2.store.roster =
        [⟨default, "Invoices are wrong", some "billing"⟩, ⟨Uuid.next default, forging, none⟩] := by
    decide +kernel
  have only := each Merge.stocked (fun _ _ => .ok []) default findings Merge.reachable_stocked
  rw [listed] at only
  obtain ⟨r, hr, same⟩ := (only (List.cons_ne_nil _ _)).named
    "11111111-2222-4333-8444-555555555555 | Exports time out | " (by decide +kernel)
  revert same
  revert r
  decide +kernel

end Prompt

end MeetingInsights
