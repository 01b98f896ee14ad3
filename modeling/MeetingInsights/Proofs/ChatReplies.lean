import MeetingInsights.Chat.Client
import MeetingInsights.Proofs.TypedFields

/-! # Replies of a chat endpoint

What becomes of the reply to a question, for any status and any text. A rejection keeps the status, its
reason and the complaint; of a completion only the content of the first choice counts. Every failure is
a failed extraction.
-/

namespace MeetingInsights

namespace Json

/-- A record gives a field a text. -/
def Says (names : List String) (d : Doc) (n s : String) : Prop :=
  ∃ l, Gives names d n (.string l) ∧ Literal.text? l = some s

/-- A record gives a field a text, or it does not give the field, whose text is then another. -/
def SaysOr (value : String) (names : List String) (d : Doc) (n s : String) : Prop :=
  Says names d n s ∨ (∀ v, ¬ Gives names d n v) ∧ s = value

theorem text_eq_some_iff {depth : Nat} {d : Doc} {s : String} :
    text depth d = some s ↔ ∃ l, d = .string l ∧ Literal.text? l = some s := by
  cases d with
  | string l => simp [text]
  | _ => simp [text]

section

variable {α : Type} {read : Decoder α} {names : List String} {d : Doc} {n : String} {slot : Slot}
  {depth : Nat} (holds : ∀ v, slot = .given v ↔ Gives names d n v)
include holds

theorem gives_iff_of_required {a : α} (h : slot.required read depth = some a) :
    ∃ v, read depth v = some a ∧ ∀ v', Gives names d n v' ↔ v' = v := by
  cases slot with
  | given v => exact ⟨v, h, fun v' => (holds v').symm.trans (by rw [Slot.given.injEq, eq_comm])⟩
  | absent => nomatch h
  | beyond => nomatch h

theorem gives_iff_of_withDefault {value a : α} (h : slot.withDefault value read depth = some a) :
    (∃ v, read depth v = some a ∧ ∀ v', Gives names d n v' ↔ v' = v) ∨
      (∀ v, ¬ Gives names d n v) ∧ a = value := by
  cases slot with
  | given v => exact .inl (gives_iff_of_required holds h)
  | absent | beyond =>
    cases h
    exact .inr ⟨fun v given => (nomatch (holds v).mpr given), rfl⟩

private theorem says_iff_of_required {s : String} (h : slot.required text depth = some s)
    (s' : String) : Says names d n s' ↔ s' = s := by
  obtain ⟨_, value, gives⟩ := gives_iff_of_required holds h
  obtain ⟨l, rfl, stands⟩ := text_eq_some_iff.mp value
  simp only [Says, gives, Doc.string.injEq]
  simp [stands, eq_comm]

theorem saysOr_iff_of_withDefault {value s : String}
    (h : slot.withDefault value text depth = some s) (s' : String) :
    SaysOr value names d n s' ↔ s' = s := by
  rw [SaysOr, Says]
  rcases gives_iff_of_withDefault holds h with ⟨_, told, gives⟩ | ⟨untold, rfl⟩
  · obtain ⟨l, rfl, stands⟩ := text_eq_some_iff.mp told
    simp [gives, stands, eq_comm]
  · simp [untold]

end

end Json

namespace Chat

open Json (Doc Gives Says SaysOr)

namespace Rejection

theorem containsChars_iff (mark cs : List Char) : containsChars mark cs = true ↔ mark <:+: cs := by
  induction cs with
  | nil => simp [containsChars]
  | cons c cs ih =>
    rw [containsChars, Bool.or_eq_true, ih, List.isPrefixOf_iff_prefix, List.infix_cons_iff]

/-- The reason for an answer of a status whose complaint is of a kind. Each status and kind has one
reason, since a reason holds only where none before it does. -/
inductive Due (status : Nat) (kind : String) : Rejection → Prop
  | authentication (h : status = 401) : Due status kind .authentication
  | rateLimit (h : status = 429) : Due status kind .rateLimit
  | modelNotFound (known : status ≠ 401) (calm : status ≠ 429)
      (h : status = 404 ∨ kind = "model_not_found") : Due status kind .modelNotFound
  | contextLength (h : status = 400) (model : kind ≠ "model_not_found")
      (long : "context_length".toList <:+: kind.toList) : Due status kind .contextLength
  | server (h : 500 ≤ status ∧ status ≤ 599) (model : kind ≠ "model_not_found") :
      Due status kind .server
  | unknown (unnamed : status ∉ [401, 429, 404]) (model : kind ≠ "model_not_found")
      (short : ¬ (status = 400 ∧ "context_length".toList <:+: kind.toList))
      (client : ¬ (500 ≤ status ∧ status ≤ 599)) : Due status kind .unknown

private theorem due_ofAnswer (status : Nat) (kind : String) :
    Due status kind (ofAnswer status kind) := by
  simp only [ofAnswer, containsChars_iff, missingModelKind, contextLengthMark]
  split
  case isTrue h => exact .authentication h
  case isFalse known =>
  split
  case isTrue h => exact .rateLimit h
  case isFalse calm =>
  split
  case isTrue h => exact .modelNotFound known calm h
  case isFalse model =>
  obtain ⟨found, model⟩ := not_or.mp model
  split
  case isTrue h => exact .contextLength h.1 model h.2
  case isFalse short =>
  split
  case isTrue h => exact .server h model
  case isFalse client => exact .unknown (by simp [known, calm, found]) model short client

theorem due_iff {status : Nat} {kind : String} {r : Rejection} :
    Due status kind r ↔ r = ofAnswer status kind := by
  refine ⟨fun h => ?_, fun h => h ▸ due_ofAnswer status kind⟩
  simp only [ofAnswer, containsChars_iff, missingModelKind, contextLengthMark]
  cases h with
  | authentication h => rw [if_pos h]
  | rateLimit h => rw [if_neg (by omega), if_pos h]
  | modelNotFound known calm h => rw [if_neg known, if_neg calm, if_pos h]
  | contextLength h model long =>
    rw [if_neg (by omega), if_neg (by omega), if_neg (not_or.mpr ⟨by omega, model⟩), if_pos ⟨h, long⟩]
  | server h model =>
    rw [if_neg (by omega), if_neg (by omega), if_neg (not_or.mpr ⟨by omega, model⟩),
      if_neg (by omega), if_pos h]
  | unknown unnamed model short client =>
    simp only [List.mem_cons, List.not_mem_nil, or_false, not_or] at unnamed
    rw [if_neg unnamed.1, if_neg unnamed.2.1, if_neg (not_or.mpr ⟨unnamed.2.2, model⟩), if_neg short,
      if_neg client]

end Rejection

/-- The kind and the message of the complaint in a text. An envelope says them itself; a text that is
no envelope is all message. -/
inductive Complains (b : String) : String → String → Prop
  | envelope {d error : Doc} {kind message : String} (text : Doc.parse? b = some d)
      (known : (Complaint.decode 0 d).isSome = true)
      (given : Gives Complaint.fieldNames d "error" error)
      (kinds : SaysOr "" Complaint.innerFieldNames error "type" kind)
      (tells : Says Complaint.innerFieldNames error "message" message) : Complains b kind message
  | bare (unknown : Json.decode? Complaint.decode b = none) : Complains b "" b

private theorem Complaint.decodeInner_eq_some {depth : Nat} {d : Doc} {c : Complaint}
    (h : Complaint.decodeInner depth d = some c) :
    (∀ s, Says Complaint.innerFieldNames d "message" s ↔ s = c.message) ∧
      ∀ s, SaysOr "" Complaint.innerFieldNames d "type" s ↔ s = c.kind := by
  obtain ⟨slots, read, h⟩ := Option.bind_eq_some_iff.mp h
  split at h
  case h_2 => nomatch h
  case h_1 =>
    obtain ⟨_, message, h⟩ := Option.bind_eq_some_iff.mp h
    obtain ⟨_, kind, h⟩ := Option.bind_eq_some_iff.mp h
    obtain ⟨_, code, h⟩ := Option.bind_eq_some_iff.mp h
    cases h
    obtain ⟨tells, held⟩ := List.forall₂_cons.mp (Json.held_of_slots? (by decide) read)
    obtain ⟨kinds, -⟩ := List.forall₂_cons.mp held
    exact ⟨Json.says_iff_of_required tells message, Json.saysOr_iff_of_withDefault kinds kind⟩

theorem Complaint.decode_eq_some {depth : Nat} {d : Doc} {c : Complaint}
    (h : Complaint.decode depth d = some c) : ∃ error,
      Complaint.decodeInner (depth + 1) error = some c ∧
        ∀ v, Gives Complaint.fieldNames d "error" v ↔ v = error := by
  obtain ⟨slots, read, h⟩ := Option.bind_eq_some_iff.mp h
  split at h
  case h_2 => nomatch h
  case h_1 =>
    obtain ⟨holds, -⟩ := List.forall₂_cons.mp (Json.held_of_slots? (by decide) read)
    exact Json.gives_iff_of_required holds h

theorem complains_iff {b kind message : String} :
    Complains b kind message ↔ Reply.complaintOf b = (kind, message) := by
  rw [Reply.complaintOf]
  cases h : Json.decode? Complaint.decode b with
  | none =>
    constructor
    · intro complains
      cases complains with
      | envelope text known =>
        rw [Json.decode?, text, Option.bind_some] at h
        rw [h] at known
        cases known
      | bare => rfl
    · intro same
      cases same
      exact .bare h
  | some c =>
    obtain ⟨d, text, decoded⟩ := Option.bind_eq_some_iff.mp h
    obtain ⟨error, inner, gives⟩ := Complaint.decode_eq_some decoded
    obtain ⟨tells, kinds⟩ := Complaint.decodeInner_eq_some inner
    constructor
    · intro complains
      cases complains with
      | envelope text' _ given kinds' tells' =>
        cases text.symm.trans text'
        obtain rfl := (gives _).mp given
        rw [(tells _).mp tells', (kinds _).mp kinds']
      | bare unknown => nomatch h.symm.trans unknown
    · intro same
      cases same
      exact .envelope text (by rw [decoded]; rfl) ((gives _).mpr rfl) ((kinds _).mpr rfl)
        ((tells _).mpr rfl)

theorem Message.decode_eq_some {depth : Nat} {d : Doc} {m : Message}
    (h : Message.decode depth d = some m) :
    ∀ s, SaysOr "" Message.fieldNames d "content" s ↔ s = m.content := by
  obtain ⟨slots, read, h⟩ := Option.bind_eq_some_iff.mp h
  split at h
  case h_2 => nomatch h
  case h_1 =>
    obtain ⟨_, role, h⟩ := Option.bind_eq_some_iff.mp h
    obtain ⟨_, content, h⟩ := Option.bind_eq_some_iff.mp h
    cases h
    obtain ⟨-, held⟩ := List.forall₂_cons.mp (Json.held_of_slots? (by decide) read)
    obtain ⟨holds, -⟩ := List.forall₂_cons.mp held
    exact Json.saysOr_iff_of_withDefault holds content

theorem Choice.decode_eq_some {depth : Nat} {d : Doc} {c : Choice}
    (h : Choice.decode depth d = some c) : ∃ message,
      Message.decode (depth + 1) message = some c.message ∧
        ∀ v, Gives Choice.fieldNames d "message" v ↔ v = message := by
  obtain ⟨slots, read, h⟩ := Option.bind_eq_some_iff.mp h
  split at h
  case h_2 => nomatch h
  case h_1 =>
    obtain ⟨_, message, h⟩ := Option.bind_eq_some_iff.mp h
    obtain ⟨_, reason, h⟩ := Option.bind_eq_some_iff.mp h
    cases h
    obtain ⟨holds, -⟩ := List.forall₂_cons.mp (Json.held_of_slots? (by decide) read)
    exact Json.gives_iff_of_required holds message

theorem Completion.decode_eq_some {depth : Nat} {d : Doc} {c : Completion}
    (h : Completion.decode depth d = some c) :
    (∃ items, List.Forall₂ (fun x choice => Choice.decode (depth + 2) x = some choice) items c.choices ∧
        ∀ v, Gives Completion.fieldNames d "choices" v ↔ v = .array items) ∨
      (∀ v, ¬ Gives Completion.fieldNames d "choices" v) ∧ c.choices = [] := by
  obtain ⟨slots, read, h⟩ := Option.bind_eq_some_iff.mp h
  split at h
  case h_2 => nomatch h
  case h_1 =>
    obtain ⟨_, id, h⟩ := Option.bind_eq_some_iff.mp h
    obtain ⟨_, choices, h⟩ := Option.bind_eq_some_iff.mp h
    obtain ⟨_, usage, h⟩ := Option.bind_eq_some_iff.mp h
    cases h
    obtain ⟨-, held⟩ := List.forall₂_cons.mp (Json.held_of_slots? (by decide) read)
    obtain ⟨holds, -⟩ := List.forall₂_cons.mp held
    rcases Json.gives_iff_of_withDefault holds choices with ⟨_, listed, gives⟩ | none
    · obtain ⟨items, rfl, values⟩ := Json.exists_items_of_list listed
      exact .inl ⟨items, values, gives⟩
    · exact .inr none

/-- The content of a choice: what its message says, and nothing where the message gives no content. -/
def Answers (x : Doc) (content : String) : Prop :=
  ∃ message, Gives Choice.fieldNames x "message" message ∧
    SaysOr "" Message.fieldNames message "content" content

theorem answers_iff {depth : Nat} {x : Doc} {c : Choice} (h : Choice.decode depth x = some c)
    (content : String) : Answers x content ↔ content = c.message.content := by
  obtain ⟨message, decoded, gives⟩ := Choice.decode_eq_some h
  simp [Answers, gives, Message.decode_eq_some decoded]

private theorem firstContent?_of_gives {depth : Nat} {d x : Doc} {later : List Doc} {c : Completion}
    (h : Completion.decode depth d = some c)
    (given : Gives Completion.fieldNames d "choices" (.array (x :: later))) :
    ∃ content, (∀ t, Answers x t ↔ t = content) ∧ c.firstContent? = some content := by
  rcases Completion.decode_eq_some h with ⟨items, values, gives⟩ | ⟨none, -⟩
  · cases (gives _).mp given
    obtain ⟨choice, rest, first, -, choices⟩ := List.forall₂_cons_left_iff.mp values
    exact ⟨choice.message.content, answers_iff first, by rw [Completion.firstContent?, choices]; rfl⟩
  · exact absurd given (none _)

private theorem firstContent?_of_empty {depth : Nat} {d : Doc} {c : Completion}
    (h : Completion.decode depth d = some c)
    (empty : ∀ x later, ¬ Gives Completion.fieldNames d "choices" (.array (x :: later))) :
    c.firstContent? = none := by
  rcases Completion.decode_eq_some h with ⟨items, values, gives⟩ | ⟨-, choices⟩
  · cases items with
    | nil => rw [Completion.firstContent?, List.forall₂_nil_left_iff.mp values]; rfl
    | cons x later => exact absurd ((gives _).mpr rfl) (empty x later)
  · rw [Completion.firstContent?, choices]; rfl

theorem isSuccess_iff {status : Nat} : Reply.isSuccess status = true ↔ 200 ≤ status ∧ status ≤ 299 := by
  rw [Reply.isSuccess, Bool.and_eq_true, decide_eq_true_eq, decide_eq_true_eq]

/-- A failure can only be that of an extraction. -/
def FailsAsExtraction {α : Type} (x : Except Error α) : Prop :=
  ∀ error, x = .error error → ∃ detail, error = .extraction detail

namespace FailsAsExtraction

variable {α β : Type}

theorem ok (a : α) : FailsAsExtraction (.ok a) := fun _ none => nomatch none

theorem extraction (detail : String) :
    FailsAsExtraction (.error (.extraction detail) : Except Error α) := by
  intro error h
  cases h
  exact ⟨detail, rfl⟩

theorem ite {c : Prop} [Decidable c] {x y : Except Error α} (hx : FailsAsExtraction x)
    (hy : FailsAsExtraction y) : FailsAsExtraction (if c then x else y) := by
  split
  · exact hx
  · exact hy

theorem bind {x : Except Error α} {f : α → Except Error β} (hx : FailsAsExtraction x)
    (hf : ∀ a, FailsAsExtraction (f a)) : FailsAsExtraction (x >>= f) := by
  cases x with
  | error error =>
    intro error' h
    cases h
    exact hx error rfl
  | ok a => exact hf a

end FailsAsExtraction

open FailsAsExtraction

private theorem failsAsExtraction_build (e : Endpoint) (question : String) :
    FailsAsExtraction (Request.build e question) := by
  rw [Request.build]
  split
  · exact extraction _
  · exact .ite (extraction _) (.ite (extraction _) (.ite (extraction _) (ok _)))

private theorem failsAsExtraction_content (url : Url) (r : Reply) :
    FailsAsExtraction (r.content url) := by
  cases r with
  | nothing => exact extraction _
  | answer status b =>
    refine .ite ?_ (extraction _)
    split
    · exact extraction _
    · split
      · exact ok _
      · exact extraction _

private theorem failsAsExtraction_read (content : String) :
    FailsAsExtraction (Envelope.read content) := by
  refine .ite (extraction _) ?_
  split
  · exact ok _
  · exact extraction _

/-- Whatever goes wrong, what fails is the extraction. -/
theorem failsAsExtraction_extract (e : Endpoint) (send : Request → Reply) (m : Meeting)
    (roster : List RosterEntry) : FailsAsExtraction (extract e send m roster) :=
  .bind (failsAsExtraction_build e _) fun request =>
    .bind (failsAsExtraction_content request.url (send request)) failsAsExtraction_read

/-- A reply of success with a completion whose first choice is `x`. -/
inductive Completes : Reply → Doc → List Doc → Prop
  | mk {status : Nat} {b : String} {d x : Doc} {later : List Doc}
      (success : 200 ≤ status ∧ status ≤ 299) (text : Doc.parse? b = some d)
      (known : (Completion.decode 0 d).isSome = true)
      (given : Gives Completion.fieldNames d "choices" (.array (x :: later))) :
      Completes (.answer status b) x later

inductive CompletesEmpty : Reply → Prop
  | mk {status : Nat} {b : String} {d : Doc} (success : 200 ≤ status ∧ status ≤ 299)
      (text : Doc.parse? b = some d) (known : (Completion.decode 0 d).isSome = true)
      (empty : ∀ x later, ¬ Gives Completion.fieldNames d "choices" (.array (x :: later))) :
      CompletesEmpty (.answer status b)

private theorem completes_or_empty {status : Nat} {b : String}
    (success : 200 ≤ status ∧ status ≤ 299)
    (known : (Json.decode? Completion.decode b).isSome = true) :
    CompletesEmpty (.answer status b) ∨ ∃ x later, Completes (.answer status b) x later := by
  obtain ⟨c, decoded⟩ := Option.isSome_iff_exists.mp known
  obtain ⟨d, text, decoded⟩ := Option.bind_eq_some_iff.mp decoded
  have known : (Completion.decode 0 d).isSome = true := by rw [decoded]; rfl
  by_cases first : ∃ x later, Gives Completion.fieldNames d "choices" (.array (x :: later))
  · obtain ⟨x, later, given⟩ := first
    exact .inr ⟨x, later, .mk success text known given⟩
  · exact .inl (.mk success text known fun x later given => first ⟨x, later, given⟩)

section

variable (url : Url) {status : Nat} {b : String}

private theorem findings_of_rejected (failure : ¬ (200 ≤ status ∧ status ≤ 299))
    {kind message : String} {r : Rejection} (complains : Complains b kind message)
    (due : Rejection.Due status kind r) :
    (Reply.answer status b).findings url = .error (r.toError status message) := by
  rw [Reply.findings, Reply.content, if_neg (isSuccess_iff.not.mpr failure), Reply.rejection,
    complains_iff.mp complains, Rejection.due_iff.mp due]
  rfl

private theorem findings_of_undecodable (success : 200 ≤ status ∧ status ≤ 299)
    (unknown : Json.decode? Completion.decode b = none) :
    (Reply.answer status b).findings url = .error Reply.undecodable := by
  rw [Reply.findings, Reply.content, if_pos (isSuccess_iff.mpr success), unknown]
  rfl

theorem findings_of_completes {r : Reply} {x : Doc} {later : List Doc} (h : Completes r x later) :
    ∃ content, (∀ t, Answers x t ↔ t = content) ∧ r.findings url = Envelope.read content := by
  obtain ⟨success, text, known, given⟩ := h
  obtain ⟨c, decoded⟩ := Option.isSome_iff_exists.mp known
  obtain ⟨content, answers, first⟩ := firstContent?_of_gives decoded given
  refine ⟨content, answers, ?_⟩
  rw [Reply.findings, Reply.content, if_pos (isSuccess_iff.mpr success), Json.decode?, text,
    Option.bind_some, decoded]
  simp only [first]
  rfl

private theorem findings_of_completesEmpty {r : Reply} (h : CompletesEmpty r) :
    r.findings url = .error Reply.noChoices := by
  obtain ⟨success, text, known, empty⟩ := h
  obtain ⟨c, decoded⟩ := Option.isSome_iff_exists.mp known
  rw [Reply.findings, Reply.content, if_pos (isSuccess_iff.mpr success), Json.decode?, text,
    Option.bind_some, decoded]
  simp only [firstContent?_of_empty decoded empty]
  rfl

end

private theorem extract_of_built {e : Endpoint} {m : Meeting} {roster : List RosterEntry}
    {request : Request} (built : Request.build e (Prompt.user m roster) = .ok request)
    (send : Request → Reply) :
    extract e send m roster = (send request).findings request.url := by
  rw [extract, built]
  rfl

/-- What is extracted from the reply to a question, whatever its status and its text are. -/
theorem extract_of_answer {e : Endpoint} (send : Request → Reply) {m : Meeting}
    {roster : List RosterEntry} {request : Request} {status : Nat} {b : String}
    (built : Request.build e (Prompt.user m roster) = .ok request)
    (received : send request = .answer status b) :
    (¬ (200 ≤ status ∧ status ≤ 299) →
      (∃ kind message r, Complains b kind message ∧ Rejection.Due status kind r) ∧
      ∀ kind message r, Complains b kind message → Rejection.Due status kind r →
        extract e send m roster = .error (.extraction
          ("openai error " ++ toString status ++ " (" ++ r.detail ++ "): " ++ message))) ∧
    (200 ≤ status ∧ status ≤ 299 →
      (Json.decode? Completion.decode b = none → ∃ detail,
        extract e send m roster = .error (.extraction ("failed to decode response" ++ detail))) ∧
      ((Json.decode? Completion.decode b).isSome = true →
        CompletesEmpty (send request) ∨ ∃ x later, Completes (send request) x later)) ∧
    (CompletesEmpty (send request) →
      extract e send m roster = .error (.extraction "no response from LLM")) ∧
    (∀ x later, Completes (send request) x later → ∃ content,
      (∀ t, Answers x t ↔ t = content) ∧ extract e send m roster = Envelope.read content) ∧
    (∀ error, extract e send m roster = .error error → ∃ detail, error = .extraction detail) ∧
    ∀ send' x later later', Completes (send request) x later → Completes (send' request) x later' →
      extract e send' m roster = extract e send m roster := by
  have whole := failsAsExtraction_extract e send m roster
  simp only [extract_of_built built] at whole ⊢
  refine ⟨fun failure => ⟨?_, fun kind message r complains due => ?_⟩, fun success => ⟨?_, ?_⟩,
    findings_of_completesEmpty _, fun _ _ => findings_of_completes _, whole, ?_⟩
  · exact ⟨_, _, _, complains_iff.mpr rfl, Rejection.due_iff.mpr rfl⟩
  · rw [received, findings_of_rejected request.url failure complains due]
    rfl
  · intro unknown
    rw [received, findings_of_undecodable request.url success unknown]
    exact ⟨": error decoding response body", by decide +kernel⟩
  · rw [received]
    exact completes_or_empty success
  · intro send' x later later' first first'
    obtain ⟨content, answers, read⟩ := findings_of_completes request.url first
    obtain ⟨content', answers', read'⟩ := findings_of_completes request.url first'
    rw [read, read', (answers' content).mp ((answers content).mpr rfl)]

private theorem build_standard (question : String) : ∃ request,
    Request.build .standard question = .ok request := by
  have url : Url.parse? Endpoint.standard.address =
      some ⟨"https", some "api.openai.com", none, "/v1/chat/completions", none, none⟩ := by
    decide +kernel
  rw [Request.build, url]
  exact ⟨_, rfl⟩

/-- A completion whose message has no content. -/
def silentCompletion : String :=
  "\x7b\"choices\":[\x7b\"message\":\x7b\"role\":\"assistant\"\x7d\x7d]\x7d"

def silentChoice : Doc :=
  .object [(.ofText "message", .object [(.ofText "role", .string (.ofText "assistant"))])]

private theorem completes_silentCompletion :
    Completes (.answer 200 silentCompletion) silentChoice [] := by
  have text : Doc.parse? silentCompletion =
      some (.object [(.ofText "choices", .array [silentChoice])]) := by cbv
  exact .mk (by decide) text (by decide +kernel)
    (.member (List.mem_singleton_self _) (by decide +kernel))

theorem extract_of_busy_or_silent :
    extract .standard (fun _ => .answer 429 "busy") default [] =
        .error (.extraction "openai error 429 (rate limit exceeded): busy") ∧
      extract .standard (fun _ => .answer 200 silentCompletion) default [] = Envelope.read "" := by
  obtain ⟨request, built⟩ := build_standard (Prompt.user default [])
  constructor
  · obtain ⟨rejects, -⟩ := extract_of_answer (fun _ => .answer 429 "busy") built rfl
    exact (rejects (by decide)).2 "" "busy" .rateLimit (.bare (by cbv)) (.rateLimit rfl)
  · obtain ⟨-, -, -, completes, -⟩ :=
      extract_of_answer (fun _ => .answer 200 silentCompletion) built rfl
    obtain ⟨content, answers, read⟩ := completes _ _ completes_silentCompletion
    have silent : Choice.decode 2 silentChoice = some ⟨⟨"assistant", ""⟩, none⟩ := by decide +kernel
    rw [read, (answers "").mp ((answers_iff silent "").mpr rfl)]

end Chat

end MeetingInsights
