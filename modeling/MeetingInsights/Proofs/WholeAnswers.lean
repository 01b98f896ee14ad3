import MeetingInsights.Proofs.CodeFences
import MeetingInsights.Proofs.JobRuns
import MeetingInsights.Proofs.MalformedFindings

/-! # Answers as a whole

An answer is taken as a whole or not at all. Its findings are those of its items, each read as if it
stood alone; one item that is no finding spoils the answer, and a job that gets such an answer stores
nothing of it.
-/

namespace MeetingInsights

namespace Json

theorem SpellsMember.exists_context {cs : List Char} {k : Literal} {d : Doc}
    (h : SpellsMember cs (k, d)) :
    ∃ pre x post, cs = pre ++ x ++ post ∧ Spells x d ∧
      ∀ x' d', Spells x' d' → SpellsMember (pre ++ x' ++ post) (k, d') := by
  cases h with
  | @mk before key after _ _ _ front name back value =>
    cases value with
    | @pad ahead x behind _ hahead value hbehind =>
      refine ⟨before ++ '"' :: key ++ after ++ ':' :: ahead, x, behind, by simp, value, ?_⟩
      intro x' d' value'
      have member := SpellsMember.mk front name back (.pad hahead value' hbehind)
      simpa using member

private theorem SpellsMembers.cons_of_ne_nil {cs rest : List Char} {m : Literal × Doc}
    {ms : List (Literal × Doc)} (member : SpellsMember cs m) (some : ms ≠ [])
    (members : SpellsMembers rest ms) : SpellsMembers (cs ++ ',' :: rest) (m :: ms) := by
  obtain ⟨m', ms, rfl⟩ := List.exists_cons_of_ne_nil some
  exact .cons member members

/-- The text of the members of an object with the text of one value in it, which another document may
take the place of. -/
theorem SpellsMembers.exists_context {cs : List Char} {k : Literal} {d : Doc}
    {before after : List (Literal × Doc)} (h : SpellsMembers cs (before ++ (k, d) :: after)) :
    ∃ pre x post, cs = pre ++ x ++ post ∧ Spells x d ∧
      ∀ x' d', Spells x' d' → SpellsMembers (pre ++ x' ++ post) (before ++ (k, d') :: after) := by
  induction before generalizing cs with
  | nil =>
    cases h with
    | last member =>
      obtain ⟨pre, x, post, rfl, value, context⟩ := member.exists_context
      exact ⟨pre, x, post, rfl, value, fun x' d' value' => .last (context x' d' value')⟩
    | @cons _ rest _ _ _ member members =>
      obtain ⟨pre, x, post, rfl, value, context⟩ := member.exists_context
      refine ⟨pre, x, post ++ ',' :: rest, by simp, value, fun x' d' value' => ?_⟩
      have others := SpellsMembers.cons (context x' d' value') members
      simpa using others
  | cons m before ih =>
    have some (d : Doc) : before ++ (k, d) :: after ≠ [] :=
      List.append_ne_nil_of_right_ne_nil _ (List.cons_ne_nil _ _)
    obtain ⟨m', ms, shape⟩ := List.exists_cons_of_ne_nil (some d)
    rw [List.cons_append, shape] at h
    cases h with
    | @cons first _ _ _ _ member members =>
      rw [← shape] at members
      obtain ⟨pre, x, post, rfl, value, context⟩ := ih members
      refine ⟨first ++ ',' :: pre, x, post, by simp, value, fun x' d' value' => ?_⟩
      have others := SpellsMembers.cons_of_ne_nil member (some d') (context x' d' value')
      simpa using others

private theorem SpellsItems.exists_item {cs : List Char} {ds : List Doc} (h : SpellsItems cs ds)
    {d : Doc} (listed : d ∈ ds) : ∃ x, x <:+: cs ∧ SpellsPadded x d := by
  induction ds generalizing cs with
  | nil => nomatch listed
  | cons e ds ih =>
    cases h with
    | last item =>
      obtain rfl := List.mem_singleton.mp listed
      exact ⟨cs, List.infix_rfl, item⟩
    | @cons first rest _ _ _ item items =>
      rcases List.mem_cons.mp listed with rfl | listed
      · exact ⟨first, (List.prefix_append _ _).isInfix, item⟩
      · obtain ⟨x, within, item⟩ := ih items listed
        exact ⟨x, within.trans ((List.suffix_cons _ _).trans (List.suffix_append _ _)).isInfix, item⟩

end Json

namespace Job

private theorem kept_append (front back : String) (short : front.length ≤ 197) :
    ∃ rest, kept (front ++ back) = front ++ rest := by
  rw [kept]
  split
  · exact ⟨back, rfl⟩
  · refine ⟨String.ofList (back.toList.take (197 - front.length)) ++ "...", ?_⟩
    rw [String.toList_append, List.take_append, String.length_toList,
      List.take_of_length_le (by rwa [String.length_toList]), ← String.append_assoc,
      ← String.toList_inj]
    simp

variable {b : Backend} {m : Meeting} {provider : Provider}

/-- A job that fails with the provider leaves the meeting failed, with a message that says so, and
stores no opportunity, theme or evidence. -/
structure StoresNothing (b : Backend) (id : Uuid) (o : Outcome) (b' : Backend) : Prop where
  told : ∃ detail, o = .failed ("AI extraction failed: " ++ detail)
  recorded : ∃ rest, b'.store.meetingStatus? id =
    some (.failed, some ("AI extraction failed: " ++ rest))
  opportunities : b'.store.opportunities = b.store.opportunities
  themes : b'.store.themes = b.store.themes
  evidence : b'.store.evidence = b.store.evidence

private theorem storesNothing_of_unanswered (calm : b.faults = []) {id : Uuid}
    (found : b.store.meetings.find? id = some m) (isOpen : m.status.isTerminal = false) {e : Error}
    (answer : provider (marked b m) (entries b.store) = .error e) :
    ∃ o b', (process id).run provider b = (o, b') ∧ StoresNothing b id o b' := by
  obtain ⟨o, b', run, works⟩ := (run_process calm id provider).2.2 m found isOpen
  have records := works.records
  rw [MeetingTable.find?_eq_some found] at records
  cases works.settles with
  | unanswered answer' =>
    cases answer.symm.trans answer'
    obtain ⟨rest, cut⟩ := kept_append "AI extraction failed: " e.message (by decide)
    exact ⟨_, _, run, ⟨_, rfl⟩, ⟨rest, by rw [records, Outcome.recorded?, cut]⟩, rfl, rfl, rfl⟩
  | unmerged answer' => cases answer.symm.trans answer'
  | merged answer' => cases answer.symm.trans answer'

end Job

namespace Envelope

open Json (Doc Literal SpellsMembers SpellsPadded Spaces)
open Text (trimChars)

/-- An object that holds one array of items under its field; all other members are under other
names. -/
structure Frame where
  before : List (Literal × Doc)
  key : Literal
  after : List (Literal × Doc)
  named : Literal.text? key = some "results"
  alone : ∀ m ∈ before ++ after, Literal.text? m.1 ≠ some "results"

namespace Frame

variable (frame : Frame)

def holding (items : List Doc) : Doc :=
  .object (frame.before ++ (frame.key, .array items) :: frame.after)

/-- The name of every other member stands for a text. -/
def Nameable : Prop := ∀ m ∈ frame.before ++ frame.after, (Literal.text? m.1).isSome = true

end Frame

private theorem fill_of_notMem {k : String} {names : List String} (other : k ∉ names) (d : Doc)
    (slots : List Json.Slot) : Json.slotsByName.fill k d names slots = some slots := by
  induction names generalizing slots with
  | nil => cases slots <;> rfl
  | cons name names ih =>
    rw [List.mem_cons, not_or] at other
    cases slots with
    | nil => rfl
    | cons slot slots =>
      simp only [Json.slotsByName.fill, if_neg (Ne.symm other.1), ih other.2, Option.map_some]

theorem slotsByName_append_others {ms : List (Literal × Doc)}
    (others : ∀ m ∈ ms, Literal.text? m.1 ≠ some "results") (rest : List (Literal × Doc))
    (slots : List Json.Slot) :
    Json.slotsByName fieldNames (ms ++ rest) = some slots ↔
      (∀ m ∈ ms, (Literal.text? m.1).isSome = true) ∧
        Json.slotsByName fieldNames rest = some slots := by
  induction ms with
  | nil => simp
  | cons m ms ih =>
    obtain ⟨other, others⟩ := List.forall_mem_cons.mp others
    rw [List.cons_append, Json.slotsByName, List.forall_mem_cons, and_assoc, ← ih others]
    cases named : Literal.text? m.1 with
    | none => simp
    | some k =>
      have unlisted : k ∉ fieldNames := by
        rw [fieldNames, List.mem_singleton]
        rintro rfl
        exact other named
      simp [fill_of_notMem unlisted]

theorem slotsByName_frame (frame : Frame) {d : Doc} {slots : List Json.Slot} :
    Json.slotsByName fieldNames (frame.before ++ (frame.key, d) :: frame.after) = some slots ↔
      frame.Nameable ∧ slots = [.given d] := by
  obtain ⟨before, after⟩ := List.forall_mem_append.mp frame.alone
  have behind {slots : List Json.Slot} : Json.slotsByName fieldNames frame.after = some slots ↔
      (∀ m ∈ frame.after, (Literal.text? m.1).isSome = true) ∧ slots = [.absent] := by
    have whole := slotsByName_append_others after [] slots
    rw [List.append_nil] at whole
    rw [whole, Json.slotsByName, Option.some_inj, eq_comm (b := slots)]
    rfl
  rw [slotsByName_append_others before, Frame.Nameable, List.forall_mem_append, and_assoc,
    Json.slotsByName, frame.named]
  refine and_congr_right fun _ => ?_
  simp only [Option.bind_eq_bind, Option.bind_some, Option.bind_eq_some_iff, behind]
  constructor
  · rintro ⟨_, ⟨nameable, rfl⟩, filled⟩
    exact ⟨nameable, (Option.some.inj filled).symm⟩
  · rintro ⟨nameable, rfl⟩
    exact ⟨_, ⟨nameable, rfl⟩, rfl⟩

/-- The findings in a frame are the findings of the items, one for each and in their order. -/
theorem decode_holding (frame : Frame) {items : List Doc} {fs : List Finding} :
    decode 0 (frame.holding items) = some fs ↔
      frame.Nameable ∧ List.Forall₂ (fun v f => Finding.decode 2 v = some f) items fs := by
  rw [← Json.mapM_eq_some_iff, decode]
  constructor
  · intro h
    obtain ⟨slots, slotted, h⟩ := Option.bind_eq_some_iff.mp h
    obtain ⟨nameable, rfl⟩ := (slotsByName_frame frame).mp slotted
    exact ⟨nameable, h⟩
  · rintro ⟨nameable, h⟩
    have slotted : Json.slots? fieldNames 0 (frame.holding items) = some [.given (.array items)] :=
      (slotsByName_frame frame).mpr ⟨nameable, rfl⟩
    rw [slotted]
    exact h

private theorem exists_members {t : String} {ms : List (Literal × Doc)}
    (text : Doc.parse? t = some (.object ms)) :
    ∃ inner, SpellsMembers inner ms ∧ trimChars t.toList = '{' :: inner ++ ['}'] := by
  rw [Doc.parse?_eq_some_iff] at text
  generalize t.toList = cs at text
  cases text with
  | pad front value back =>
    cases value with
    | object members =>
      refine ⟨_, members, ?_⟩
      rw [Text.trimChars_pad front.blank back.blank,
        Text.trimChars_of_ends _ (by decide) (by decide)]

theorem read_of_object {t : String} {ms : List (Literal × Doc)}
    (text : Doc.parse? t = some (.object ms)) :
    read t = match decode 0 (.object ms) with
      | some fs => .ok fs
      | none => .error unreadableAnswer := by
  obtain ⟨inner, members, trimmed⟩ := exists_members text
  have unfenced : ¬ fence <+: trimChars t.toList := by
    rw [trimmed]
    rintro ⟨rest, shape⟩
    cases shape
  have parsed : Doc.parse? (String.ofList (body t)) = some (.object ms) := by
    have padded := SpellsPadded.pad Spaces.nil (.object members) Spaces.nil
    rw [List.nil_append, List.append_nil] at padded
    rw [Doc.parse?_eq_some_iff, String.toList_ofList, body_of_unfenced unfenced, trimmed]
    exact padded
  have some : (body t).isEmpty = false := by
    rw [body_of_unfenced unfenced, trimmed]
    rfl
  cases given : decode 0 (.object ms) <;>
    simp only [read, some, Bool.false_eq_true, ↓reduceIte, Json.decode?, parsed, Option.bind_some,
      given]

theorem read_holding (frame : Frame) {items : List Doc} {t : String}
    (text : Doc.parse? t = some (frame.holding items)) {fs : List Finding} :
    read t = .ok fs ↔
      frame.Nameable ∧ List.Forall₂ (fun v f => Finding.decode 2 v = some f) items fs := by
  rw [← decode_holding, read_of_object text, ← Frame.holding]
  cases decode 0 (frame.holding items) <;> simp

theorem read_holding_of_refused (frame : Frame) {items : List Doc} {t : String}
    (text : Doc.parse? t = some (frame.holding items)) (refused : ∀ fs, read t ≠ .ok fs) :
    read t = .error unreadableAnswer := by
  rw [read_of_object text] at refused ⊢
  split
  case h_1 fs decoded => exact absurd (by rw [decoded]) (refused fs)
  case h_2 => rfl

theorem read_holding_one (frame : Frame) {v : Doc} {s : String}
    (text : Doc.parse? s = some (frame.holding [v])) {fs : List Finding} :
    read s = .ok fs ↔ frame.Nameable ∧ ∃ f, fs = [f] ∧ Finding.decode 2 v = some f := by
  rw [read_holding frame text, List.forall₂_cons_left_iff]
  simp [List.forall₂_nil_left_iff, and_comm]

/-- Texts in which the items stand alone in the same frame. -/
def Frame.Singles (frame : Frame) (items : List Doc) (singles : List String) : Prop :=
  List.Forall₂ (fun v s => Doc.parse? s = some (frame.holding [v])) items singles

theorem read_singles (frame : Frame) {items : List Doc} {t : String}
    (text : Doc.parse? t = some (frame.holding items)) {singles : List String}
    (alone : frame.Singles items singles) {fs : List Finding} :
    read t = .ok fs ↔ frame.Nameable ∧ List.Forall₂ (fun s f => read s = .ok [f]) singles fs := by
  rw [read_holding frame text]
  refine and_congr_right fun nameable => ?_
  clear text
  induction alone generalizing fs with
  | nil => simp
  | cons single _ ih =>
    rw [List.forall₂_cons_left_iff, List.forall₂_cons_left_iff]
    simp [ih, read_holding_one frame single, nameable]

/-- The text of a frame has one pair of brackets around its items, and leaving a single item between
them leaves a text of the frame. -/
theorem exists_single (frame : Frame) {items : List Doc} {t : String}
    (text : Doc.parse? t = some (frame.holding items)) :
    ∃ pre inner post, t.toList = pre ++ ('[' :: inner ++ [']']) ++ post ∧ ∀ v ∈ items, ∃ x,
      x <:+: inner ∧ Doc.parse? (String.ofList (pre ++ ('[' :: x ++ [']']) ++ post)) =
        some (frame.holding [v]) := by
  rw [Doc.parse?_eq_some_iff] at text
  generalize t.toList = cs at text
  cases text with
  | @pad ahead _ behind _ front value back =>
    cases value with
    | object members =>
      obtain ⟨pre, _, post, rfl, value, context⟩ := members.exists_context
      cases value with
      | @array inner _ listed =>
        refine ⟨ahead ++ '{' :: pre, inner, post ++ '}' :: behind, by simp, fun v hv => ?_⟩
        obtain ⟨x, within, item⟩ := listed.exists_item hv
        refine ⟨x, within, ?_⟩
        rw [Doc.parse?_eq_some_iff, String.toList_ofList]
        have spelled := SpellsPadded.pad front (.object (context _ _ (.array (.last item)))) back
        simpa [Frame.holding] using spelled

private theorem read_holding_of_malformed (frame : Frame) {items : List Doc} {t : String}
    (text : Doc.parse? t = some (frame.holding items)) {v : Doc} (listed : v ∈ items)
    (bad : Finding.Malformed v) : read t = .error unreadableAnswer := by
  refine read_holding_of_refused frame text fun fs accepted => ?_
  obtain ⟨-, found⟩ := (read_holding frame text).mp accepted
  obtain ⟨f, value⟩ := Json.exists_of_forall₂ found v listed
  rw [Finding.decode_of_malformed bad] at value
  cases value

private theorem exists_forall₂_of_singles {frame : Frame} {items : List Doc} {singles : List String}
    (alone : frame.Singles items singles) (accepted : ∀ s ∈ singles, ∃ fs, read s = .ok fs) :
    ∃ fs, List.Forall₂ (fun s f => read s = .ok [f]) singles fs := by
  induction alone with
  | nil => exact ⟨[], .nil⟩
  | cons single _ ih =>
    obtain ⟨⟨gs, first⟩, others⟩ := List.forall_mem_cons.mp accepted
    obtain ⟨-, f, rfl, -⟩ := (read_holding_one frame single).mp first
    obtain ⟨fs, found⟩ := ih others
    exact ⟨f :: fs, .cons first found⟩

/-- The text of an object with one array of items is read if all names in the object stand for texts
and each item can be read where it stands alone in that object, and then as the findings of the items
in their order. A malformed item spoils it, and a job that gets it for an answer stores nothing. -/
theorem whole_or_not_at_all (frame : Frame) (items : List Doc) (t : String)
    (text : Doc.parse? t = some (frame.holding items)) :
    (∃ pre inner post, t.toList = pre ++ ('[' :: inner ++ [']']) ++ post ∧ ∀ v ∈ items, ∃ x,
      x <:+: inner ∧ Doc.parse? (String.ofList (pre ++ ('[' :: x ++ [']']) ++ post)) =
        some (frame.holding [v])) ∧
    (∀ singles, frame.Singles items singles →
      ((∃ fs, read t = .ok fs) ↔ frame.Nameable ∧ ∀ s ∈ singles, ∃ fs, read s = .ok fs) ∧
      ∀ fs, read t = .ok fs → List.Forall₂ (fun s f => read s = .ok [f]) singles fs) ∧
    (¬ frame.Nameable → ∃ detail, read t = .error (.extraction detail)) ∧
    ∀ v ∈ items, Finding.Malformed v →
      (∃ detail, read t = .error (.extraction detail)) ∧
      ∀ (provider : Provider) (b : Backend) (id : Uuid) (m : Meeting), b.faults = [] →
        b.store.meetings.find? id = some m → m.status.isTerminal = false →
        provider (Job.marked b m) (Job.entries b.store) = read t →
        ∃ o b', (Job.process id).run provider b = (o, b') ∧ Job.StoresNothing b id o b' := by
  refine ⟨exists_single frame text, fun singles alone => ⟨⟨?_, ?_⟩, fun fs accepted => ?_⟩,
    fun unnameable => ?_, fun v listed bad => ?_⟩
  · rintro ⟨fs, accepted⟩
    obtain ⟨nameable, found⟩ := (read_singles frame text alone).mp accepted
    exact ⟨nameable, fun s hs => (Json.exists_of_forall₂ found s hs).imp' _ fun _ => id⟩
  · rintro ⟨nameable, accepted⟩
    obtain ⟨fs, found⟩ := exists_forall₂_of_singles alone accepted
    exact ⟨fs, (read_singles frame text alone).mpr ⟨nameable, found⟩⟩
  · exact ((read_singles frame text alone).mp accepted).2
  · exact ⟨_, read_holding_of_refused frame text fun fs accepted =>
      unnameable ((read_holding frame text).mp accepted).1⟩
  · have refused := read_holding_of_malformed frame text listed bad
    exact ⟨⟨_, refused⟩, fun provider b id m calm found isOpen answer =>
      Job.storesNothing_of_unanswered calm found isOpen (answer.trans refused)⟩

def spoiledAnswer : String :=
  "\x7b\"results\": [\x7b\"type\": \"match\"\x7d, \x7b\"type\": \"other\"\x7d], \"note\": \"```\"\x7d"

def typed (kind : String) : Doc := .object [(Literal.ofText "type", .string (Literal.ofText kind))]

private theorem malformed_typed_other : Finding.Malformed (typed "other") := by
  have named : Literal.text? (Literal.ofText "type") = some "type" := by decide +kernel
  refine .mistagged (.member (List.mem_singleton_self _) named) ?_
  rintro s same k known
  cases same
  revert k
  decide +kernel

def notedFrame : Frame where
  before := []
  key := Literal.ofText "results"
  after := [(Literal.ofText "note", .string (Literal.ofText "```"))]
  named := by decide +kernel
  alone := by
    rintro m h
    obtain rfl := List.mem_singleton.mp h
    decide +kernel

theorem spoiledAnswer_not_at_all :
    (∃ detail, read spoiledAnswer = .error (.extraction detail)) ∧
      ∃ o b', (Job.process ⟨1⟩).run (fun _ _ => read spoiledAnswer) .oneQueued = (o, b') ∧
        Job.StoresNothing .oneQueued ⟨1⟩ o b' := by
  have text : Doc.parse? spoiledAnswer =
      some (notedFrame.holding [typed "match", typed "other"]) := by cbv
  obtain ⟨m, found, queued⟩ := Store.statusOf?_eq_some.mp
    (show Backend.oneQueued.store.statusOf? ⟨1⟩ = some .queued by decide)
  obtain ⟨refused, jobs⟩ := (whole_or_not_at_all notedFrame _ _ text).2.2.2 (typed "other") (by simp)
    malformed_typed_other
  exact ⟨refused, jobs _ .oneQueued ⟨1⟩ m rfl found (by rw [queued]; rfl) rfl⟩

def halfNamedAnswer : String := "\x7b\"results\": [], \"\\ud800\": 1\x7d"

def halfNamedFrame : Frame where
  before := []
  key := Literal.ofText "results"
  after := [([.unit 0xD800], .number ⟨false, ['1'], none, none⟩)]
  named := by decide +kernel
  alone := by
    rintro m h
    obtain rfl := List.mem_singleton.mp h
    decide +kernel

/-- That every item can be read where it stands alone is not enough: without items, a name that
stands for no text still spoils the answer. -/
theorem not_all_read_by_items :
    ¬ ∀ (frame : Frame) (items : List Doc) (t : String),
      Doc.parse? t = some (frame.holding items) → ∀ singles, frame.Singles items singles →
        ((∃ fs, read t = .ok fs) ↔ ∀ s ∈ singles, ∃ fs, read s = .ok fs) := by
  intro every
  have text : Doc.parse? halfNamedAnswer = some (halfNamedFrame.holding []) := by cbv
  obtain ⟨fs, accepted⟩ := (every halfNamedFrame [] _ text [] .nil).mpr (by simp)
  obtain ⟨nameable, -⟩ := (read_holding halfNamedFrame text).mp accepted
  exact absurd (nameable _ (List.mem_singleton_self _)) (by decide +kernel)

end Envelope

end MeetingInsights
