import MeetingInsights.Json.Fields
import MeetingInsights.Proofs.JsonTokens

/-! # The grammar of JSON

Which texts stand for a document, said without regard to how they are read: the reader accepts exactly
these texts, and reads them as the document that they stand for.
-/

namespace MeetingInsights.Json

mutual

/-- The texts of a document, without white space around them. -/
inductive Spells : List Char → Doc → Prop
  | nullWord : Spells ['n', 'u', 'l', 'l'] .null
  | trueWord : Spells ['t', 'r', 'u', 'e'] (.bool true)
  | falseWord : Spells ['f', 'a', 'l', 's', 'e'] (.bool false)
  | number {cs : List Char} {n : Numeral} (digits : numeral? false cs = some (n, [])) :
      Spells cs (.number n)
  | negative {cs : List Char} {n : Numeral} (digits : numeral? true cs = some (n, [])) :
      Spells ('-' :: cs) (.number n)
  | string {cs : List Char} {s : Literal} (pieces : literal? cs = some (s, [])) :
      Spells ('"' :: cs) (.string s)
  | array {cs : List Char} {ds : List Doc} (items : SpellsItems cs ds) :
      Spells ('[' :: cs ++ [']']) (.array ds)
  | object {cs : List Char} {ms : List (Literal × Doc)} (members : SpellsMembers cs ms) :
      Spells ('{' :: cs ++ ['}']) (.object ms)

/-- The texts of a document, with white space around them. -/
inductive SpellsPadded : List Char → Doc → Prop
  | pad {before cs after : List Char} {d : Doc} (front : Spaces before) (value : Spells cs d)
      (back : Spaces after) : SpellsPadded (before ++ cs ++ after) d

/-- The texts between the brackets of an array. -/
inductive SpellsItems : List Char → List Doc → Prop
  | empty {ws : List Char} (spaces : Spaces ws) : SpellsItems ws []
  | last {cs : List Char} {d : Doc} (item : SpellsPadded cs d) : SpellsItems cs [d]
  | cons {cs rest : List Char} {d e : Doc} {ds : List Doc} (item : SpellsPadded cs d)
      (items : SpellsItems rest (e :: ds)) : SpellsItems (cs ++ ',' :: rest) (d :: e :: ds)

/-- The texts of a member, its key in front. -/
inductive SpellsMember : List Char → Literal × Doc → Prop
  | mk {before key after cs : List Char} {k : Literal} {d : Doc} (front : Spaces before)
      (name : literal? key = some (k, [])) (back : Spaces after) (value : SpellsPadded cs d) :
      SpellsMember (before ++ '"' :: key ++ after ++ ':' :: cs) (k, d)

/-- The texts between the braces of an object. -/
inductive SpellsMembers : List Char → List (Literal × Doc) → Prop
  | empty {ws : List Char} (spaces : Spaces ws) : SpellsMembers ws []
  | last {cs : List Char} {m : Literal × Doc} (member : SpellsMember cs m) : SpellsMembers cs [m]
  | cons {cs rest : List Char} {m m' : Literal × Doc} {ms : List (Literal × Doc)}
      (member : SpellsMember cs m) (members : SpellsMembers rest (m' :: ms)) :
      SpellsMembers (cs ++ ',' :: rest) (m :: m' :: ms)

end

theorem value?_append_spaces {ws : List Char} (spaces : Spaces ws) (fuel : Nat) (cs : List Char) :
    value? fuel (ws ++ cs) = value? fuel cs := by
  cases fuel with
  | zero => rfl
  | succ fuel => rw [value?, value?, skipSpace_append spaces]

private theorem value?_skipSpace (fuel : Nat) (cs : List Char) :
    value? fuel (skipSpace cs) = value? fuel cs := by
  obtain ⟨ws, spaces, split⟩ := exists_spaces cs
  rw [← value?_append_spaces spaces, ← split]

private theorem elements?_skipSpace (fuel : Nat) (cs : List Char) :
    elements? fuel (skipSpace cs) = elements? fuel cs := by
  cases fuel with
  | zero => rfl
  | succ fuel => rw [elements?, elements?, value?_skipSpace]

private theorem members?_skipSpace (fuel : Nat) (cs : List Char) :
    members? fuel (skipSpace cs) = members? fuel cs := by
  cases fuel with
  | zero => rfl
  | succ fuel => rw [members?, members?, skipSpace_idem]

theorem Spells.eq_cons {cs : List Char} {d : Doc} (h : Spells cs d) :
    ∃ c cs', cs = c :: cs' ∧ isSpace c = false ∧ c ≠ ']' := by
  cases h with
  | number digits =>
    obtain ⟨_, rfl, ⟨c, t, rfl, digit⟩, -⟩ := numeral?_takes digits
    refine ⟨c, t, List.append_nil _, isSpace_of_isDigit digit, ?_⟩
    rintro rfl
    exact absurd digit (by decide)
  | _ => exact ⟨_, _, rfl, by decide, by decide⟩

private theorem value?_number {cs rest : List Char} {n : Numeral} (fuel : Nat)
    (digits : numeral? false cs = some (n, [])) (ends : EndsNumber rest) :
    value? (fuel + 1) (cs ++ rest) = some (.number n, rest) := by
  obtain ⟨_, rfl, ⟨c, t, rfl, digit⟩, takes⟩ := numeral?_takes digits
  have read := takes rest ends
  rw [List.append_nil, value?, List.cons_append, skipSpace_cons (isSpace_of_isDigit digit)]
  split
  case h_8 => rw [← List.cons_append, read]; rfl
  all_goals
    -- No other kind of value begins with a digit.
    rename_i h
    rw [(List.cons.inj h).1] at digit
    exact absurd digit (by decide)

theorem SpellsItems.skipSpace {cs : List Char} {d : Doc} {ds : List Doc}
    (h : SpellsItems cs (d :: ds)) (rest : List Char) :
    ∃ c r, Json.skipSpace (cs ++ rest) = c :: r ∧ c ≠ ']' := by
  have padded {cs : List Char} (h : SpellsPadded cs d) (rest : List Char) :
      ∃ c r, Json.skipSpace (cs ++ rest) = c :: r ∧ c ≠ ']' := by
    cases h with
    | pad front value back =>
      obtain ⟨c, cs, rfl, space, close⟩ := value.eq_cons
      rw [List.append_assoc, List.append_assoc, skipSpace_append front, List.cons_append,
        skipSpace_cons space]
      exact ⟨c, _, rfl, close⟩
  cases h with
  | last item => exact padded item rest
  | cons item items =>
    rw [List.append_assoc]
    exact padded item _

theorem SpellsMembers.skipSpace {cs : List Char} {m : Literal × Doc} {ms : List (Literal × Doc)}
    (h : SpellsMembers cs (m :: ms)) (rest : List Char) :
    ∃ r, Json.skipSpace (cs ++ rest) = '"' :: r := by
  have named {cs : List Char} (h : SpellsMember cs m) (rest : List Char) :
      ∃ r, Json.skipSpace (cs ++ rest) = '"' :: r := by
    cases h with
    | mk front name back value =>
      simp only [List.append_assoc, List.cons_append, skipSpace_append front]
      exact ⟨_, skipSpace_cons (by decide)⟩
  cases h with
  | last member => exact named member rest
  | cons member members =>
    rw [List.append_assoc]
    exact named member _

private theorem value?_array {cs rest : List Char} {ds : List Doc} {fuel : Nat}
    (items : SpellsItems cs ds)
    (inner : ds ≠ [] → elements? fuel (cs ++ ']' :: rest) = some (ds, rest)) :
    value? (fuel + 1) ('[' :: cs ++ [']'] ++ rest) = some (.array ds, rest) := by
  rw [List.cons_append, List.cons_append, List.append_assoc, List.singleton_append, value?,
    skipSpace_cons (by decide)]
  cases ds with
  | nil =>
    cases items with
    | empty spaces => simp [skipSpace_append spaces, skipSpace_cons, isSpace]
  | cons d ds =>
    obtain ⟨c, r, first, close⟩ := items.skipSpace (']' :: rest)
    have read := inner (by simp)
    rw [← elements?_skipSpace, first] at read
    simp [first, close, read]

private theorem value?_object {cs rest : List Char} {ms : List (Literal × Doc)} {fuel : Nat}
    (members : SpellsMembers cs ms)
    (inner : ms ≠ [] → members? fuel (cs ++ '}' :: rest) = some (ms, rest)) :
    value? (fuel + 1) ('{' :: cs ++ ['}'] ++ rest) = some (.object ms, rest) := by
  rw [List.cons_append, List.cons_append, List.append_assoc, List.singleton_append, value?,
    skipSpace_cons (by decide)]
  cases ms with
  | nil =>
    cases members with
    | empty spaces => simp [skipSpace_append spaces, skipSpace_cons, isSpace]
  | cons m ms =>
    obtain ⟨r, first⟩ := members.skipSpace ('}' :: rest)
    have read := inner (by simp)
    rw [← members?_skipSpace, first] at read
    simp [first, read]

mutual

/-- A text is read as the document that it stands for, up to where the text ends. -/
theorem value?_spells (fuel : Nat) {cs : List Char} (rest : List Char) {d : Doc} :
    Spells cs d → EndsNumber rest → 2 * cs.length ≤ fuel →
      value? fuel (cs ++ rest) = some (d, rest)
  | h, ends, enough => by
    obtain ⟨c, cs', text, -, -⟩ := h.eq_cons
    have long : 0 < cs.length := by simp [text]
    obtain ⟨fuel, rfl⟩ : ∃ f, fuel = f + 1 := ⟨fuel - 1, by omega⟩
    cases h with
    | nullWord | trueWord | falseWord => rfl
    | number digits => exact value?_number fuel digits ends
    | negative digits =>
      obtain ⟨_, rfl, -, takes⟩ := numeral?_takes digits
      rw [List.append_nil]
      simp [value?, skipSpace_cons, isSpace, takes rest ends]
    | string pieces =>
      obtain ⟨_, rfl, takes⟩ := literal?_takes pieces
      rw [List.append_nil]
      simp [value?, skipSpace_cons, isSpace, takes rest trivial]
    | array items =>
      rw [List.length_append, List.length_cons, List.length_singleton] at enough
      exact value?_array items fun nonempty => elements?_spells fuel rest items nonempty (by omega)
    | object members =>
      rw [List.length_append, List.length_cons, List.length_singleton] at enough
      exact value?_object members fun nonempty =>
        members?_spells fuel rest members nonempty (by omega)

theorem value?_spellsPadded (fuel : Nat) {cs : List Char} (rest : List Char) {d : Doc} :
    SpellsPadded cs d → EndsNumber rest → 2 * cs.length ≤ fuel →
      ∃ ws, Spaces ws ∧ value? fuel (cs ++ rest) = some (d, ws ++ rest)
  | .pad front value back, ends, enough => by
    refine ⟨_, back, ?_⟩
    rw [List.append_assoc, List.append_assoc, value?_append_spaces front]
    simp only [List.length_append] at enough
    exact value?_spells fuel _ value (ends.append_spaces back) (by omega)

theorem elements?_spells (fuel : Nat) {cs : List Char} (rest : List Char) {ds : List Doc} :
    SpellsItems cs ds → ds ≠ [] → 2 * cs.length + 1 ≤ fuel →
      elements? fuel (cs ++ ']' :: rest) = some (ds, rest)
  | .empty _, nonempty, _ => absurd rfl nonempty
  | .last item, _, enough => by
    obtain ⟨fuel, rfl⟩ : ∃ f, fuel = f + 1 := ⟨fuel - 1, by omega⟩
    obtain ⟨ws, spaces, read⟩ := value?_spellsPadded fuel (']' :: rest) item
      (.of_cons (by decide)) (by omega)
    simp [elements?, read, skipSpace_append spaces, skipSpace_cons, isSpace]
  | @SpellsItems.cons _ others _ _ _ item items, _, enough => by
    obtain ⟨fuel, rfl⟩ : ∃ f, fuel = f + 1 := ⟨fuel - 1, by omega⟩
    simp only [List.length_append, List.length_cons] at enough
    obtain ⟨ws, spaces, read⟩ := value?_spellsPadded fuel (',' :: (others ++ ']' :: rest))
      item (.of_cons (by decide)) (by omega)
    have inner := elements?_spells fuel rest items (by simp) (by omega)
    simp [elements?, read, inner, skipSpace_append spaces, skipSpace_cons, isSpace]

theorem value?_spellsMember (fuel : Nat) {cs : List Char} (rest : List Char) {m : Literal × Doc} :
    SpellsMember cs m → EndsNumber rest → 2 * cs.length ≤ fuel →
      ∃ key after value ws, skipSpace (cs ++ rest) = '"' :: key ∧
        literal? key = some (m.1, after) ∧ skipSpace after = ':' :: value ∧ Spaces ws ∧
          value? fuel value = some (m.2, ws ++ rest)
  | .mk front name back value, ends, enough => by
    obtain ⟨_, rfl, takes⟩ := literal?_takes name
    simp only [List.append_nil, List.length_append, List.length_cons] at enough ⊢
    obtain ⟨ws, spaces, read⟩ := value?_spellsPadded fuel _ value ends (by omega)
    simp only [List.append_assoc, List.cons_append, skipSpace_append front]
    refine ⟨_, _, _, ws, skipSpace_cons (by decide), takes _ trivial, ?_, spaces, read⟩
    rw [skipSpace_append back, skipSpace_cons (by decide)]

theorem members?_spells (fuel : Nat) {cs : List Char} (rest : List Char)
    {ms : List (Literal × Doc)} :
    SpellsMembers cs ms → ms ≠ [] → 2 * cs.length + 1 ≤ fuel →
      members? fuel (cs ++ '}' :: rest) = some (ms, rest)
  | .empty _, nonempty, _ => absurd rfl nonempty
  | .last member, _, enough => by
    obtain ⟨fuel, rfl⟩ : ∃ f, fuel = f + 1 := ⟨fuel - 1, by omega⟩
    obtain ⟨key, after, value, ws, opens, name, colon, spaces, read⟩ :=
      value?_spellsMember fuel ('}' :: rest) member (.of_cons (by decide)) (by omega)
    simp [members?, opens, name, colon, read, skipSpace_append spaces, skipSpace_cons, isSpace]
  | @SpellsMembers.cons _ others _ _ _ member members, _, enough => by
    obtain ⟨fuel, rfl⟩ : ∃ f, fuel = f + 1 := ⟨fuel - 1, by omega⟩
    simp only [List.length_append, List.length_cons] at enough
    obtain ⟨key, after, value, ws, opens, name, colon, spaces, read⟩ :=
      value?_spellsMember fuel (',' :: (others ++ '}' :: rest)) member
        (.of_cons (by decide)) (by omega)
    have inner := members?_spells fuel rest members (by simp) (by omega)
    simp [members?, opens, name, colon, read, inner, skipSpace_append spaces, skipSpace_cons, isSpace]

end

theorem SpellsItems.pad_front {ws cs : List Char} {ds : List Doc} (spaces : Spaces ws)
    (h : SpellsItems cs ds) : SpellsItems (ws ++ cs) ds := by
  have padded {cs : List Char} {d : Doc} (h : SpellsPadded cs d) : SpellsPadded (ws ++ cs) d := by
    cases h with
    | pad front value back =>
      rw [← List.append_assoc, ← List.append_assoc]
      exact .pad (spaces.append front) value back
  cases h with
  | empty more => exact .empty (spaces.append more)
  | last item => exact .last (padded item)
  | cons item items =>
    rw [← List.append_assoc]
    exact .cons (padded item) items

theorem SpellsMembers.pad_front {ws cs : List Char} {ms : List (Literal × Doc)} (spaces : Spaces ws)
    (h : SpellsMembers cs ms) : SpellsMembers (ws ++ cs) ms := by
  have padded {cs : List Char} {m : Literal × Doc} (h : SpellsMember cs m) :
      SpellsMember (ws ++ cs) m := by
    cases h with
    | mk front name back value =>
      simp only [← List.append_assoc]
      exact .mk (spaces.append front) name back value
  cases h with
  | empty more => exact .empty (spaces.append more)
  | last member => exact .last (padded member)
  | cons member members =>
    rw [← List.append_assoc]
    exact .cons (padded member) members

theorem eq_append_of_dropWord? {word cs rest : List Char} {d e : Doc}
    (h : (dropWord? word cs).map (fun rest => (e, rest)) = some (d, rest)) :
    cs = word ++ rest ∧ d = e := by
  simp only [Option.map_eq_some_iff, Prod.mk.injEq] at h
  obtain ⟨_, found, rfl, rfl⟩ := h
  rw [dropWord?, Option.ite_none_right_eq_some, List.isPrefixOf_iff_prefix] at found
  obtain ⟨⟨_, rfl⟩, drop⟩ := found
  rw [← Option.some.inj drop, List.drop_left]
  exact ⟨rfl, rfl⟩

private theorem spells_word {first : Char} {word tail rest : List Char} {d e : Doc}
    (spelled : Spells (first :: word) e)
    (h : (dropWord? word tail).map (fun rest => (e, rest)) = some (d, rest)) :
    ∃ t, first :: tail = t ++ rest ∧ Spells t d := by
  obtain ⟨rfl, rfl⟩ := eq_append_of_dropWord? h
  exact ⟨first :: word, rfl, spelled⟩

private theorem spells_string {tail rest : List Char} {s : Literal}
    (read : literal? tail = some (s, rest)) :
    ∃ t, '"' :: tail = t ++ rest ∧ Spells t (.string s) := by
  obtain ⟨t, rfl, takes⟩ := literal?_takes read
  have pieces : literal? t = some (s, []) := by simpa using takes [] trivial
  exact ⟨'"' :: t, rfl, .string pieces⟩

private theorem spells_number {cs rest : List Char} {n : Numeral}
    (read : numeral? false cs = some (n, rest)) :
    ∃ t, cs = t ++ rest ∧ Spells t (.number n) := by
  obtain ⟨t, rfl, -, takes⟩ := numeral?_takes read
  have digits : numeral? false t = some (n, []) := by simpa using takes [] fun _ h => nomatch h
  exact ⟨t, rfl, .number digits⟩

private theorem spells_negative {tail rest : List Char} {n : Numeral}
    (read : numeral? true tail = some (n, rest)) :
    ∃ t, '-' :: tail = t ++ rest ∧ Spells t (.number n) := by
  obtain ⟨t, rfl, -, takes⟩ := numeral?_takes read
  have digits : numeral? true t = some (n, []) := by simpa using takes [] fun _ h => nomatch h
  exact ⟨'-' :: t, rfl, .negative digits⟩

private theorem spells_array {tail t rest : List Char} {ds : List Doc}
    (inner : skipSpace tail = t ++ ']' :: rest) (items : SpellsItems t ds) :
    ∃ t, '[' :: tail = t ++ rest ∧ Spells t (.array ds) := by
  obtain ⟨ws, spaces, rfl⟩ := exists_spaces_of_skipSpace inner
  exact ⟨'[' :: (ws ++ t) ++ [']'], by simp, .array (items.pad_front spaces)⟩

private theorem spells_object {tail t rest : List Char} {ms : List (Literal × Doc)}
    (inner : skipSpace tail = t ++ '}' :: rest) (members : SpellsMembers t ms) :
    ∃ t, '{' :: tail = t ++ rest ∧ Spells t (.object ms) := by
  obtain ⟨ws, spaces, rfl⟩ := exists_spaces_of_skipSpace inner
  exact ⟨'{' :: (ws ++ t) ++ ['}'], by simp, .object (members.pad_front spaces)⟩

/-- What is read behind the first element: the end of the array, or a comma and more elements. -/
private theorem elements?_eq_some {fuel : Nat} {cs rest : List Char} {ds : List Doc}
    (h : elements? (fuel + 1) cs = some (ds, rest)) :
    ∃ d left, value? fuel cs = some (d, left) ∧
      (skipSpace left = ']' :: rest ∧ ds = [d] ∨
        ∃ more es, skipSpace left = ',' :: more ∧ elements? fuel more = some (es, rest) ∧
          ds = d :: es) := by
  rw [elements?] at h
  split at h
  case h_1 => cases h
  case h_2 d left read =>
    refine ⟨d, left, read, ?_⟩
    split at h
    case h_1 closes =>
      simp only [Option.some.injEq, Prod.mk.injEq] at h
      obtain ⟨rfl, rfl⟩ := h
      exact .inl ⟨closes, rfl⟩
    case h_2 more comma =>
      simp only [Option.map_eq_some_iff, Prod.exists, Prod.mk.injEq] at h
      obtain ⟨es, _, others, rfl, rfl⟩ := h
      exact .inr ⟨more, es, comma, others, rfl⟩
    case h_3 => cases h

/-- What is read behind the first member: the end of the object, or a comma and more members. -/
private theorem members?_eq_some {fuel : Nat} {cs rest : List Char} {ms : List (Literal × Doc)}
    (h : members? (fuel + 1) cs = some (ms, rest)) :
    ∃ key k after value d left, skipSpace cs = '"' :: key ∧ literal? key = some (k, after) ∧
      skipSpace after = ':' :: value ∧ value? fuel value = some (d, left) ∧
      (skipSpace left = '}' :: rest ∧ ms = [(k, d)] ∨
        ∃ more ms', skipSpace left = ',' :: more ∧ members? fuel more = some (ms', rest) ∧
          ms = (k, d) :: ms') := by
  rw [members?] at h
  split at h
  case h_2 => cases h
  case h_1 key opens =>
    split at h
    case h_1 => cases h
    case h_2 k after name =>
      split at h
      case h_2 => cases h
      case h_1 value colon =>
        split at h
        case h_1 => cases h
        case h_2 d left read =>
          refine ⟨key, k, after, value, d, left, opens, name, colon, read, ?_⟩
          split at h
          case h_1 closes =>
            simp only [Option.some.injEq, Prod.mk.injEq] at h
            obtain ⟨rfl, rfl⟩ := h
            exact .inl ⟨closes, rfl⟩
          case h_2 more comma =>
            simp only [Option.map_eq_some_iff, Prod.exists, Prod.mk.injEq] at h
            obtain ⟨ms', _, others, rfl, rfl⟩ := h
            exact .inr ⟨more, ms', comma, others, rfl⟩
          case h_3 => cases h

mutual

/-- Before what is left stands a text of the document that was read. -/
theorem spells_of_value? {d : Doc} {rest : List Char} :
    ∀ (fuel : Nat) (cs : List Char), value? fuel cs = some (d, rest) →
      ∃ ws t, cs = ws ++ (t ++ rest) ∧ Spaces ws ∧ Spells t d
  | 0, _, h => nomatch h
  | fuel + 1, cs, h => by
    obtain ⟨ws, spaces, split⟩ := exists_spaces cs
    suffices text : ∃ t, skipSpace cs = t ++ rest ∧ Spells t d by
      obtain ⟨t, same, spelled⟩ := text
      exact ⟨ws, t, same ▸ split, spaces, spelled⟩
    rw [value?] at h
    split at h
    case h_1 tail opens =>
      simp only [Option.map_eq_some_iff, Prod.exists, Prod.mk.injEq] at h
      obtain ⟨s, _, read, rfl, rfl⟩ := h
      exact opens ▸ spells_string read
    case h_2 tail opens =>
      rw [opens]
      split at h
      case h_1 closes =>
        simp only [Option.some.injEq, Prod.mk.injEq] at h
        obtain ⟨rfl, rfl⟩ := h
        exact spells_array (t := []) closes (.empty .nil)
      case h_2 =>
        simp only [Option.map_eq_some_iff, Prod.exists, Prod.mk.injEq] at h
        obtain ⟨ds, _, read, rfl, rfl⟩ := h
        obtain ⟨-, t, inner, items⟩ := spells_of_elements? fuel _ read
        exact spells_array inner items
    case h_3 tail opens =>
      rw [opens]
      split at h
      case h_1 closes =>
        simp only [Option.some.injEq, Prod.mk.injEq] at h
        obtain ⟨rfl, rfl⟩ := h
        exact spells_object (t := []) closes (.empty .nil)
      case h_2 =>
        simp only [Option.map_eq_some_iff, Prod.exists, Prod.mk.injEq] at h
        obtain ⟨ms, _, read, rfl, rfl⟩ := h
        obtain ⟨-, t, inner, members⟩ := spells_of_members? fuel _ read
        exact spells_object inner members
    case h_4 tail opens =>
      simp only [Option.map_eq_some_iff, Prod.exists, Prod.mk.injEq] at h
      obtain ⟨n, _, read, rfl, rfl⟩ := h
      exact opens ▸ spells_negative read
    case h_5 tail opens => exact opens ▸ spells_word .nullWord h
    case h_6 tail opens => exact opens ▸ spells_word .trueWord h
    case h_7 tail opens => exact opens ▸ spells_word .falseWord h
    case h_8 =>
      simp only [Option.map_eq_some_iff, Prod.exists, Prod.mk.injEq] at h
      obtain ⟨n, _, read, rfl, rfl⟩ := h
      exact spells_number read

theorem spells_of_elements? {ds : List Doc} {rest : List Char} :
    ∀ (fuel : Nat) (cs : List Char), elements? fuel cs = some (ds, rest) →
      ds ≠ [] ∧ ∃ t, cs = t ++ ']' :: rest ∧ SpellsItems t ds
  | 0, _, h => nomatch h
  | fuel + 1, cs, h => by
    obtain ⟨d, left, read, ends⟩ := elements?_eq_some h
    obtain ⟨ws, t, rfl, spaces, spelled⟩ := spells_of_value? fuel cs read
    rcases ends with ⟨closes, rfl⟩ | ⟨more, es, comma, others, rfl⟩
    · obtain ⟨ws', spaces', rfl⟩ := exists_spaces_of_skipSpace closes
      exact ⟨by simp, ws ++ t ++ ws', by simp, .last (.pad spaces spelled spaces')⟩
    · obtain ⟨ws', spaces', rfl⟩ := exists_spaces_of_skipSpace comma
      obtain ⟨nonempty, t', rfl, items⟩ := spells_of_elements? fuel _ others
      obtain ⟨e, es, rfl⟩ := List.exists_cons_of_ne_nil nonempty
      exact ⟨by simp, ws ++ t ++ ws' ++ ',' :: t', by simp,
        .cons (.pad spaces spelled spaces') items⟩

theorem spells_of_members? {ms : List (Literal × Doc)} {rest : List Char} :
    ∀ (fuel : Nat) (cs : List Char), members? fuel cs = some (ms, rest) →
      ms ≠ [] ∧ ∃ t, cs = t ++ '}' :: rest ∧ SpellsMembers t ms
  | 0, _, h => nomatch h
  | fuel + 1, cs, h => by
    obtain ⟨key, k, after, value, d, left, opens, name, colon, read, ends⟩ := members?_eq_some h
    obtain ⟨before, front, rfl⟩ := exists_spaces_of_skipSpace opens
    obtain ⟨keyText, rfl, takes⟩ := literal?_takes name
    have whole : literal? keyText = some (k, []) := by simpa using takes [] trivial
    obtain ⟨behind, back, rfl⟩ := exists_spaces_of_skipSpace colon
    obtain ⟨ws, t, rfl, spaces, spelled⟩ := spells_of_value? fuel _ read
    have member (ws' : List Char) (spaces' : Spaces ws') :
        SpellsMember (before ++ '"' :: keyText ++ behind ++ ':' :: (ws ++ t ++ ws')) (k, d) :=
      .mk front whole back (.pad spaces spelled spaces')
    rcases ends with ⟨closes, rfl⟩ | ⟨more, ms', comma, others, rfl⟩
    · obtain ⟨ws', spaces', rfl⟩ := exists_spaces_of_skipSpace closes
      exact ⟨by simp, _, by simp, .last (member ws' spaces')⟩
    · obtain ⟨ws', spaces', rfl⟩ := exists_spaces_of_skipSpace comma
      obtain ⟨nonempty, t', rfl, members⟩ := spells_of_members? fuel _ others
      obtain ⟨m', ms, rfl⟩ := List.exists_cons_of_ne_nil nonempty
      exact ⟨by simp, _, by simp, .cons (member ws' spaces') members⟩

end

/-- A text is read as a document exactly if it stands for the document. -/
theorem Doc.ofChars?_eq_some_iff {cs : List Char} {d : Doc} :
    Doc.ofChars? cs = some d ↔ SpellsPadded cs d := by
  rw [Doc.ofChars?]
  constructor
  · intro h
    split at h
    case h_1 d' rest read =>
      rw [Option.ite_none_right_eq_some, List.isEmpty_iff] at h
      obtain ⟨blank, same⟩ := h
      obtain rfl := Option.some.inj same
      obtain ⟨ws, t, rfl, spaces, spelled⟩ := spells_of_value? _ _ read
      obtain ⟨ws', spaces', rfl⟩ := exists_spaces_of_skipSpace blank
      rw [List.append_nil, ← List.append_assoc]
      exact .pad spaces spelled spaces'
    case h_2 => cases h
  · intro h
    obtain ⟨ws, spaces, read⟩ := value?_spellsPadded _ [] h (by simp [EndsNumber])
      (Nat.le_add_right _ 2)
    rw [List.append_nil, List.append_nil] at read
    simp [read, spaces.skipSpace_eq_nil]

theorem Doc.parse?_eq_some_iff {s : String} {d : Doc} :
    Doc.parse? s = some d ↔ SpellsPadded s.toList d :=
  Doc.ofChars?_eq_some_iff

/-- The text of what fields can be read of stands between brackets or between braces. -/
theorem SpellsPadded.exists_brackets {cs : List Char} {d : Doc} (h : SpellsPadded cs d)
    {names : List String} {depth : Nat} {slots : List Slot} (record : slots? names depth d = some slots) :
    ∃ before first inner last after, Spaces before ∧ Spaces after ∧
      cs = before ++ (first :: inner ++ [last]) ++ after ∧
        (first = '[' ∧ last = ']' ∨ first = '{' ∧ last = '}') := by
  cases h with
  | pad front value back =>
    cases value with
    | array items => exact ⟨_, _, _, _, _, front, back, rfl, .inl ⟨rfl, rfl⟩⟩
    | object members => exact ⟨_, _, _, _, _, front, back, rfl, .inr ⟨rfl, rfl⟩⟩
    | _ => nomatch record

end MeetingInsights.Json
