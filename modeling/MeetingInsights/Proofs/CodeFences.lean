import MeetingInsights.Proofs.JsonGrammar
import MeetingInsights.Proofs.TrimmedTexts
import MeetingInsights.Wire.Envelope

/-! # Code fences

An answer means the same with a code fence around it as without one. A fence may name its language or
not and be closed or not, with white space wherever it may stand; what is taken out of it are the
characters of the answer, however many backticks stand among them.
-/

namespace MeetingInsights

theorem Json.Spaces.blank {cs : List Char} (h : Json.Spaces cs) : Text.Blank cs := by
  intro c hc
  have space := h c hc
  simp only [Json.isSpace, Bool.or_eq_true, beq_iff_eq] at space
  rcases space with ((rfl | rfl) | rfl) | rfl <;> decide

namespace Envelope

open Text (Blank Trimmed trimChars isBlank)

private theorem dropMark_append (mark cs : List Char) : dropMark mark (mark ++ cs) = cs := by
  rw [dropMark, if_pos (List.isPrefixOf_iff_prefix.mpr (List.prefix_append mark cs)), List.drop_left]

private theorem dropMark_of_head {c : Char} {cs : List Char} (other : c ∉ cs.head?)
    (mark : List Char) : dropMark (c :: mark) cs = cs := by
  rw [dropMark, if_neg]
  rw [List.isPrefixOf_iff_prefix]
  rintro ⟨rest, rfl⟩
  exact other rfl

private theorem dropEndMark_append (mark cs : List Char) : dropEndMark mark (cs ++ mark) = cs := by
  rw [dropEndMark, if_pos (List.isSuffixOf_iff_suffix.mpr (List.suffix_append cs mark)),
    List.length_append, Nat.add_sub_cancel, List.take_left]

private theorem dropEndMark_of_getLast {c : Char} {cs : List Char} (other : c ∉ cs.getLast?)
    (mark : List Char) : dropEndMark (mark ++ [c]) cs = cs := by
  rw [dropEndMark, if_neg]
  rw [List.isSuffixOf_iff_suffix]
  rintro ⟨before, rfl⟩
  rw [← List.append_assoc, List.getLast?_append] at other
  exact other rfl

theorem notMem_head?_append {c : Char} {x y : List Char} (hx : c ∉ x.head?) (hy : c ∉ y.head?) :
    c ∉ (x ++ y).head? := by
  cases x with
  | nil => exact hy
  | cons => exact hx

theorem notMem_head?_of_blank {c : Char} (solid : isBlank c = false) {x : List Char} (hx : Blank x) :
    c ∉ x.head? := by
  intro h
  rw [hx c (List.mem_of_mem_head? h)] at solid
  cases solid

def tag (tagged : Bool) : List Char := if tagged then languageTag else []

theorem unfence_fence (cs : List Char) :
    unfence (fence ++ cs) = trimChars (dropEndMark fence (dropMark languageTag cs)) := by
  rw [unfence, if_pos (List.isPrefixOf_iff_prefix.mpr (List.prefix_append fence cs)), List.drop_left]

theorem dropMark_tag {cs : List Char} (untagged : 'j' ∉ cs.head?) (tagged : Bool) :
    dropMark languageTag (tag tagged ++ cs) = cs := by
  cases tagged with
  | true => exact dropMark_append languageTag cs
  | false => exact dropMark_of_head untagged _

private theorem unfence_closed {cs : List Char} (untagged : 'j' ∉ (cs ++ fence).head?)
    (tagged : Bool) : unfence (fence ++ (tag tagged ++ (cs ++ fence))) = trimChars cs := by
  rw [unfence_fence, dropMark_tag untagged, dropEndMark_append]

theorem unfence_unclosed {cs : List Char} (untagged : 'j' ∉ cs.head?)
    (unclosed : '\x60' ∉ cs.getLast?) (tagged : Bool) :
    unfence (fence ++ (tag tagged ++ cs)) = trimChars cs := by
  have mark : fence = ['\x60', '\x60'] ++ ['\x60'] := rfl
  rw [unfence_fence, dropMark_tag untagged, mark, dropEndMark_of_getLast unclosed]

/-- A code fence with white space before it, at both ends of what it holds, and behind it. -/
structure CodeFence where
  tagged : Bool
  closed : Bool
  ahead : List Char
  opening : List Char
  ending : List Char
  behind : List Char
  blank_ahead : Blank ahead
  blank_opening : Blank opening
  blank_ending : Blank ending
  blank_behind : Blank behind

namespace CodeFence

variable (f : CodeFence)

def close : List Char := if f.closed then fence else []

def chars (cs : List Char) : List Char :=
  f.ahead ++ fence ++ tag f.tagged ++ f.opening ++ cs ++ f.ending ++ f.close ++ f.behind

/-- A text inside the fence. -/
def around (b : String) : String := String.ofList (f.chars b.toList)

end CodeFence

/-- Neither a language nor a fence is read at the ends of these characters. -/
structure Plain (cs : List Char) : Prop where
  untagged : 'j' ∉ cs.head?
  unclosed : '\x60' ∉ cs.getLast?

theorem trimChars_fence {w cs w' : List Char} (hw : Blank w) (hw' : Blank w')
    (last : ∀ c ∈ (fence ++ cs).getLast?, isBlank c = false) :
    trimChars (w ++ (fence ++ cs) ++ w') = fence ++ cs := by
  have trimmed : Trimmed (fence ++ cs) := ⟨fun c h => by cases h; decide, last⟩
  rw [Text.trimChars_pad hw hw', trimmed.trimChars_eq]

/-- A fence that is closed gives its content back. -/
theorem unfence_chars_closed (f : CodeFence) (closed : f.closed = true) {cs : List Char}
    (plain : Plain (trimChars cs)) : unfence (trimChars (f.chars cs)) = trimChars cs := by
  obtain ⟨u, v, hu, hv, split⟩ := Text.exists_pad cs
  have shape : f.chars cs =
      f.ahead ++ (fence ++ (tag f.tagged ++ (f.opening ++ cs ++ f.ending ++ fence))) ++ f.behind := by
    simp [CodeFence.chars, CodeFence.close, closed]
  have last : ∀ c ∈ (fence ++ (tag f.tagged ++ (f.opening ++ cs ++ f.ending ++ fence))).getLast?,
      isBlank c = false := by
    simp only [List.getLast?_append]
    rintro c h
    cases h
    decide
  have untagged : 'j' ∉ (f.opening ++ cs ++ f.ending ++ fence).head? := by
    have front : 'j' ∉ ((f.opening ++ u) ++ (trimChars cs ++ ((v ++ f.ending) ++ fence))).head? :=
      notMem_head?_append (notMem_head?_of_blank (by decide) (f.blank_opening.append hu))
        (notMem_head?_append plain.untagged
          (notMem_head?_append (notMem_head?_of_blank (by decide) (hv.append f.blank_ending))
            (by decide)))
    rw [split]
    simpa using front
  rw [shape, trimChars_fence f.blank_ahead f.blank_behind last, unfence_closed untagged,
    Text.trimChars_pad f.blank_opening f.blank_ending]

private theorem unfence_chars_open (f : CodeFence) (opened : f.closed = false) {cs : List Char}
    (plain : Plain (trimChars cs)) : unfence (trimChars (f.chars cs)) = trimChars cs := by
  obtain ⟨u, v, hu, hv, split⟩ := Text.exists_pad cs
  by_cases none : trimChars cs = []
  · -- The white space inside is trimmed with the white space behind.
    have shape : f.chars cs =
        f.ahead ++ (fence ++ tag f.tagged) ++ (f.opening ++ cs ++ f.ending ++ f.behind) := by
      simp [CodeFence.chars, CodeFence.close, opened]
    have last : ∀ c ∈ (fence ++ tag f.tagged).getLast?, isBlank c = false := by
      cases f.tagged <;> (intro c h; cases h; decide)
    have inside := ((f.blank_opening.append (Text.blank_iff_trimChars.mpr none)).append
      f.blank_ending).append f.blank_behind
    have content : unfence (fence ++ (tag f.tagged ++ [])) = trimChars [] :=
      unfence_unclosed (by decide) (by decide) f.tagged
    rw [List.append_nil] at content
    rw [shape, trimChars_fence f.blank_ahead inside last, content, none]
    rfl
  · have shape : f.chars cs =
        f.ahead ++ (fence ++ (tag f.tagged ++ ((f.opening ++ u) ++ trimChars cs))) ++
          (v ++ f.ending ++ f.behind) :=
      calc f.chars cs = f.chars (u ++ trimChars cs ++ v) := congrArg f.chars split
        _ = _ := by simp [CodeFence.chars, CodeFence.close, opened]
    have ends (x : List Char) : (x ++ trimChars cs).getLast? = (trimChars cs).getLast? := by
      rw [List.getLast?_append, List.getLast?_eq_some_getLast none, Option.some_or]
    have last : ∀ c ∈ (fence ++ (tag f.tagged ++ ((f.opening ++ u) ++ trimChars cs))).getLast?,
        isBlank c = false := by
      simp only [← List.append_assoc, ends]
      exact (Text.trimmed_trimChars cs).last
    have untagged : 'j' ∉ ((f.opening ++ u) ++ trimChars cs).head? :=
      notMem_head?_append (notMem_head?_of_blank (by decide) (f.blank_opening.append hu))
        plain.untagged
    have unclosed : '\x60' ∉ ((f.opening ++ u) ++ trimChars cs).getLast? := by
      rw [ends]
      exact plain.unclosed
    have content := Text.trimChars_pad (f.blank_opening.append hu) .nil (trimChars cs)
    rw [List.append_nil, (Text.trimmed_trimChars cs).trimChars_eq] at content
    rw [shape, trimChars_fence f.blank_ahead ((hv.append f.blank_ending).append f.blank_behind) last,
      unfence_unclosed untagged unclosed, content]

private theorem unfence_chars (f : CodeFence) {cs : List Char} (plain : Plain (trimChars cs)) :
    unfence (trimChars (f.chars cs)) = trimChars cs := by
  cases closed : f.closed with
  | true => exact unfence_chars_closed f closed plain
  | false => exact unfence_chars_open f closed plain

theorem body_of_unfenced {b : String} (unfenced : ¬ fence <+: trimChars b.toList) :
    body b = trimChars b.toList := by
  rw [body, unfence, if_neg (by rwa [List.isPrefixOf_iff_prefix])]

theorem body_around (f : CodeFence) {b : String} (plain : Plain (trimChars b.toList)) :
    body (f.around b) = trimChars b.toList := by
  rw [body, CodeFence.around, String.toList_ofList, unfence_chars f plain]

private theorem read_congr {a b : String} (same : body a = body b) : read a = read b := by
  rw [read, read, same]

private theorem read_around (f : CodeFence) {b : String} (unfenced : ¬ fence <+: trimChars b.toList)
    (plain : Plain (trimChars b.toList)) : read (f.around b) = read b :=
  read_congr ((body_around f plain).trans (body_of_unfenced unfenced).symm)

theorem Plain.nil : Plain [] := ⟨by decide, by decide⟩

theorem read_of_body_nil {b : String} (none : body b = []) : read b = .error emptyAnswer := by
  rw [read, none]
  rfl

private theorem decode?_body_of_read {b : String} {fs : List Finding} (accepted : read b = .ok fs) :
    Json.decode? decode (String.ofList (body b)) = some fs := by
  rw [read] at accepted
  split at accepted
  · cases accepted
  · split at accepted
    · cases accepted
      assumption
    · cases accepted

/-- The first and the last character of something that is read as a record are brackets. -/
theorem plain_of_decode? {cs : List Char} (trimmed : Trimmed cs) {fs : List Finding}
    (accepted : Json.decode? decode (String.ofList cs) = some fs) : Plain cs := by
  obtain ⟨d, parsed, decoded⟩ := Option.bind_eq_some_iff.mp accepted
  rw [decode] at decoded
  obtain ⟨slots, slotted, -⟩ := Option.bind_eq_some_iff.mp decoded
  rw [Json.Doc.parse?_eq_some_iff, String.toList_ofList] at parsed
  obtain ⟨before, first, inner, last, after, front, back, shape, brackets⟩ :=
    parsed.exists_brackets slotted
  have solid : isBlank first = false ∧ isBlank last = false := by
    rcases brackets with ⟨rfl, rfl⟩ | ⟨rfl, rfl⟩ <;> decide
  have bare : cs = first :: inner ++ [last] := by
    rw [← trimmed.trimChars_eq, shape, Text.trimChars_pad front.blank back.blank,
      Text.trimChars_of_ends inner solid.1 solid.2]
  rw [bare]
  constructor
  · rw [List.cons_append, List.head?_cons]
    rcases brackets with ⟨rfl, -⟩ | ⟨rfl, -⟩ <;> decide
  · rw [List.getLast?_concat]
    rcases brackets with ⟨-, rfl⟩ | ⟨-, rfl⟩ <;> decide

theorem read_eq_ok_iff {b : String} (unfenced : ¬ fence <+: trimChars b.toList)
    (fs : List Finding) : read b = .ok fs ↔ Json.decode? decode (Text.trim b) = some fs := by
  rw [Text.trim, ← body_of_unfenced unfenced]
  constructor
  · exact decode?_body_of_read
  · intro decoded
    have some : (body b).isEmpty = false := by
      cases h : body b with
      | nil => rw [h] at decoded; cases decoded
      | cons => rfl
    rw [read, some, if_neg Bool.false_ne_true, decoded]

private theorem read_around_of_ok (f : CodeFence) {b : String} {fs : List Finding}
    (unfenced : ¬ fence <+: trimChars b.toList) (accepted : read b = .ok fs) :
    read (f.around b) = .ok fs := by
  have plain := plain_of_decode? (Text.trimmed_trimChars b.toList)
    ((read_eq_ok_iff unfenced fs).mp accepted)
  rw [read_around f unfenced plain, accepted]

private theorem read_of_blank {b : String} (blank : Blank b.toList) :
    read b = .error emptyAnswer := by
  refine read_of_body_nil ?_
  rw [body, Text.blank_iff_trimChars.mp blank]
  rfl

private theorem read_around_of_blank (f : CodeFence) {b : String} (blank : Blank b.toList) :
    read (f.around b) = .error emptyAnswer := by
  have none := Text.blank_iff_trimChars.mp blank
  exact read_of_body_nil (by rw [body_around f (by rw [none]; exact .nil), none])

/-- A code fence takes nothing from an answer and adds nothing to it, whatever white space stands
around the fence and in it; without a fence, an answer is only trimmed. -/
theorem fences_are_transparent :
    (∀ (f : CodeFence) (b : String) (fs : List Finding), ¬ fence <+: trimChars b.toList →
      read b = .ok fs → read (f.around b) = .ok fs) ∧
    (∀ b : String, ¬ fence <+: trimChars b.toList → String.ofList (body b) = Text.trim b ∧
      ∀ fs, read b = .ok fs ↔ Json.decode? decode (Text.trim b) = some fs) ∧
    (∀ b : String, Blank b.toList → read b = .error (.extraction "empty response from LLM")) ∧
    ∀ (f : CodeFence) (b : String), Blank b.toList →
      read (f.around b) = .error (.extraction "empty response from LLM") :=
  ⟨fun f _ _ unfenced => read_around_of_ok f unfenced,
    fun _ unfenced => ⟨congrArg String.ofList (body_of_unfenced unfenced), read_eq_ok_iff unfenced⟩,
    fun _ => read_of_blank, fun f _ => read_around_of_blank f⟩

/-- A fence that names its language and is left open, with white space of several kinds. -/
def openFence : CodeFence where
  tagged := true
  closed := false
  ahead := ['\n', ' ']
  opening := ['\r', '\n']
  ending := [Char.ofNat 0xA0]
  behind := [' ']
  blank_ahead := by decide
  blank_opening := by decide
  blank_ending := by decide
  blank_behind := by decide

/-- An answer with backticks in a text. -/
def answerWithBackticks : String :=
  "\x7b\"results\":[\x7b\"type\":\"match\"\x7d],\"note\":\"```\"\x7d"

theorem fences_are_transparent_open :
    read answerWithBackticks = .ok [.matched ⟨none, []⟩] ∧
      read (openFence.around answerWithBackticks) = .ok [.matched ⟨none, []⟩] ∧
      read (openFence.around " ") = .error (.extraction "empty response from LLM") := by
  have unfenced : ¬ fence <+: trimChars answerWithBackticks.toList := by decide +kernel
  have accepted : read answerWithBackticks = .ok [.matched ⟨none, []⟩] :=
    (read_eq_ok_iff unfenced _).mpr (by decide +kernel)
  exact ⟨accepted, fences_are_transparent.1 openFence _ _ unfenced accepted,
    fences_are_transparent.2.2.2 openFence _ (by decide +kernel)⟩

end Envelope

end MeetingInsights
