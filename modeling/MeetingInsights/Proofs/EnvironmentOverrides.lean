import MeetingInsights.Config.Environment
import Mathlib.Data.List.Nodup

/-! # Overrides field by field

What the environment makes of a configuration, said of each field alone: it has the value of its own
variable where that is set to something, and keeps its value elsewhere. Overrides that are applied
in turn come to just that. Where one of them has a value that cannot be read, they come to what they
would if its variable and all later ones were not set.
-/

namespace MeetingInsights.Config

/-- Whether a value can be read as an unsigned integer of at most `bits` bits. -/
def isUnsigned (bits : Nat) (v : String) : Bool := (Number.unsignedInteger? bits v).isSome

def isText (_ : String) : Bool := true

/-- The variables in the order in which they are looked at, each with the test for values that can
be read. -/
def readers : List (String × (String → Bool)) := [
  ("NOKER_ENV", isText),
  ("DATABASE_URL", isText),
  ("NOKER_DB_MAX_CONNECTIONS", isUnsigned 32),
  ("NOKER_AI_ENABLED", fun v => (flag? v).isSome),
  ("NOKER_AI_PROVIDER", isText),
  ("NOKER_AI_MODEL", isText),
  ("NOKER_AI_TEMPERATURE", fun v => (Number.single.parse? v).isSome),
  ("NOKER_AI_API_KEY", isText),
  ("OPENAI_API_KEY", isText),
  ("OPENAI_BASE_URL", isText),
  ("NOKER_AI_TIMEOUT_SECS", isUnsigned 64),
  ("NOKER_QUEUE_TYPE", isText),
  ("NOKER_WORKER_COUNT", isUnsigned 64),
  ("NOKER_QUEUE_BUFFER_SIZE", isUnsigned 64),
  ("NOKER_POLL_INTERVAL_MS", isUnsigned 64)]

namespace Lookup

/-- The environment without any variables but the given ones. -/
def only (e : Lookup) (keys : List String) : Lookup := fun k => if k ∈ keys then e k else none

/-- The value of a variable, or `old` if it is not set to anything. -/
def value {α : Type} (e : Lookup) (key : String) (read? : String → Option α) (old : α) : α :=
  ((given e key).bind read?).getD old

/-- Whether a variable is not set to anything or has a value that can be read. -/
def reads (e : Lookup) (r : String × (String → Bool)) : Bool := (given e r.1).all r.2

variable {e : Lookup} {key : String} {keys : List String}

private theorem given_only_of_mem (h : key ∈ keys) : given (e.only keys) key = given e key := by
  rw [given, only, if_pos h, given]

private theorem given_only_of_notMem (h : key ∉ keys) : given (e.only keys) key = none := by
  rw [given, only, if_neg h, Option.filter_none]

theorem reads_eq_false_iff {r : String × (String → Bool)} :
    e.reads r = false ↔ ∃ v, given e r.1 = some v ∧ r.2 v = false :=
  Option.all_eq_false _ _

@[simp]
theorem value_value {α : Type} (read? : String → Option α) (old : α) :
    e.value key read? (e.value key read? old) = e.value key read? old := by
  unfold value
  cases (given e key).bind read? <;> rfl

end Lookup

/-- The first text of a list that is not empty. -/
def firstNonEmpty (texts : List String) : String := (texts.find? fun s => !s.isEmpty).getD ""

/-- The configuration with the value of its own variable in each field whose variable is set to
something. Two variables compete for the key, with its own value between them. -/
def overridden (c : Config) (e : Lookup) : Config where
  environment := e.value "NOKER_ENV" some c.environment
  database := {
    url := e.value "DATABASE_URL" some c.database.url
    maxConnections :=
      e.value "NOKER_DB_MAX_CONNECTIONS" (Number.unsignedInteger? 32) c.database.maxConnections
    minConnections := c.database.minConnections
    connectTimeoutSecs := c.database.connectTimeoutSecs
    idleTimeoutSecs := c.database.idleTimeoutSecs
    maxLifetimeMins := c.database.maxLifetimeMins }
  ai := {
    isEnabled := e.value "NOKER_AI_ENABLED" flag? c.ai.isEnabled
    provider := e.value "NOKER_AI_PROVIDER" some c.ai.provider
    model := e.value "NOKER_AI_MODEL" some c.ai.model
    temperature := e.value "NOKER_AI_TEMPERATURE" Number.single.parse? c.ai.temperature
    apiKey := firstNonEmpty
      [(e "NOKER_AI_API_KEY").getD "", c.ai.apiKey, (e "OPENAI_API_KEY").getD ""]
    baseUrl := e.value "OPENAI_BASE_URL" some c.ai.baseUrl
    timeoutSecs := e.value "NOKER_AI_TIMEOUT_SECS" (Number.unsignedInteger? 64) c.ai.timeoutSecs }
  queue := {
    kind := e.value "NOKER_QUEUE_TYPE" some c.queue.kind
    workerCount := e.value "NOKER_WORKER_COUNT" (Number.unsignedInteger? 64) c.queue.workerCount
    bufferSize :=
      e.value "NOKER_QUEUE_BUFFER_SIZE" (Number.unsignedInteger? 64) c.queue.bufferSize
    pollIntervalMs :=
      e.value "NOKER_POLL_INTERVAL_MS" (Number.unsignedInteger? 64) c.queue.pollIntervalMs }

namespace Override

/-- What an override makes of a configuration: nothing, where its variable is not set to anything or
its value cannot be read. -/
def apply (e : Lookup) (c : Config) (o : Override) : Config :=
  ((given e o.key).bind (o.put? c)).getD c

def reader (o : Override) : String × (String → Bool) :=
  (o.key, fun v => (o.put? .standard v).isSome)

/-- Whether a value can be read does not depend on the configuration that it is put into. -/
def IsUniform (o : Override) : Prop := ∀ c v, (o.put? c v).isSome = o.reader.2 v

variable {e e' : Lookup} {c : Config} {o : Override}

private theorem apply_congr (same : given e' o.key = given e o.key) :
    apply e' c o = apply e c o := by
  rw [apply, apply, same]

private theorem apply_of_unset (unset : given e o.key = none) : apply e c o = c := by
  rw [apply, unset, Option.bind_none, Option.getD_none]

theorem apply_reading {α : Type} {key : String} {read? : String → Option α} (get : Config → α)
    (set : Config → α → Config) (keeps : ∀ c, set c (get c) = c) (e : Lookup) (c : Config) :
    apply e c ⟨key, fun c v => (read? v).map (set c)⟩ = set c (e.value key read? (get c)) := by
  unfold apply Lookup.value
  cases given e key with
  | none => exact (keeps c).symm
  | some v =>
    dsimp only [Option.bind_some]
    cases read? v with
    | none => exact (keeps c).symm
    | some a => rfl

theorem apply_taking {key : String} (get : Config → String) (set : Config → String → Config)
    (keeps : ∀ c, set c (get c) = c) (e : Lookup) (c : Config) :
    apply e c ⟨key, fun c v => some (set c v)⟩ = set c (e.value key some (get c)) :=
  @apply_reading String key some get set keeps e c

end Override

theorem firstNonEmpty_cons (s : String) (texts : List String) :
    firstNonEmpty (s :: texts) = if s.isEmpty then firstNonEmpty texts else s := by
  unfold firstNonEmpty
  rw [List.find?_cons]
  cases s.isEmpty <;> rfl

@[simp]
theorem firstNonEmpty_singleton (s : String) : firstNonEmpty [s] = s := by
  rw [firstNonEmpty_cons, ite_eq_right_iff]
  exact fun empty => (String.isEmpty_iff.mp empty).symm

theorem firstNonEmpty_append (texts others : List String) :
    firstNonEmpty (texts ++ others) = firstNonEmpty (firstNonEmpty texts :: others) := by
  induction texts with
  | nil => rfl
  | cons s texts ih =>
    rw [List.cons_append, firstNonEmpty_cons, firstNonEmpty_cons s texts]
    split
    case isTrue => exact ih
    case isFalse full => rw [firstNonEmpty_cons, if_neg full]

private theorem firstNonEmpty_again (s t u : String) :
    firstNonEmpty [s, firstNonEmpty [s, t, u], u] = firstNonEmpty [s, t, u] := by
  rw [firstNonEmpty_cons s, firstNonEmpty_cons s]
  split
  case isTrue =>
    calc firstNonEmpty [firstNonEmpty [t, u], u]
      _ = firstNonEmpty [t, u, u] := (firstNonEmpty_append [t, u] [u]).symm
      _ = firstNonEmpty [t, u] := by
        simp only [firstNonEmpty_cons]
        cases u.isEmpty <;> rfl
  case isFalse => rfl

private theorem isEmpty_of_given {e : Lookup} {key v : String} (set : given e key = some v) :
    v.isEmpty = false := by
  obtain ⟨-, full⟩ := Option.filter_eq_some_iff.mp set
  simpa using full

theorem getD_given (e : Lookup) (key : String) : (given e key).getD "" = (e key).getD "" := by
  unfold given
  cases e key with
  | none => rfl
  | some v => cases empty : v.isEmpty <;> simp_all [Option.filter]

private theorem value_eq_firstNonEmpty (e : Lookup) (key old : String) :
    e.value key some old = firstNonEmpty [(e key).getD "", old] := by
  rw [← getD_given, firstNonEmpty_cons, firstNonEmpty_singleton, Lookup.value]
  cases set : given e key with
  | none => rfl
  | some v => simp [isEmpty_of_given set]

private theorem apply_fallback (e : Lookup) (key : String) (c : Config) :
    Override.apply e c ⟨key, fun c v => some (if c.ai.apiKey.isEmpty then setApiKey c v else c)⟩ =
      setApiKey c (firstNonEmpty [c.ai.apiKey, (e key).getD ""]) := by
  have kept : setApiKey c c.ai.apiKey = c := rfl
  rw [← getD_given, firstNonEmpty_cons, firstNonEmpty_singleton]
  unfold Override.apply
  cases empty : c.ai.apiKey.isEmpty with
  | false => cases given e key <;> simp [empty, kept]
  | true =>
    rw [String.isEmpty_iff] at empty
    cases given e key with
    | none => simp [← empty, kept]
    | some v => simp [empty]

private theorem apply_keys (key fallback : String) (e : Lookup) (c : Config) :
    Override.apply e (Override.apply e c ⟨key, fun c v => some (setApiKey c v)⟩)
        ⟨fallback, fun c v => some (if c.ai.apiKey.isEmpty then setApiKey c v else c)⟩ =
      { c with
        ai.apiKey := firstNonEmpty [(e key).getD "", c.ai.apiKey, (e fallback).getD ""] } := by
  rw [apply_fallback, Override.apply_taking (·.ai.apiKey) setApiKey fun _ => rfl,
    value_eq_firstNonEmpty]
  change setApiKey c (firstNonEmpty (firstNonEmpty _ :: _)) = _
  rw [← firstNonEmpty_append]
  rfl

theorem foldl_overrides (e : Lookup) (c : Config) :
    overrides.foldl (Override.apply e) c = c.overridden e := by
  -- The fields are taken apart first, so that no configuration in between is written out twice.
  obtain ⟨environment, ⟨url, most, least, connect, idle, lifetime⟩,
    ⟨enabled, provider, model, temperature, apiKey, baseUrl, timeout⟩,
    ⟨kind, workers, buffer, poll⟩⟩ := c
  simp only [overrides, List.foldl_cons, List.foldl_nil, apply_keys,
    Override.apply_taking (·.environment) (fun c v => { c with environment := v }) fun _ => rfl,
    Override.apply_taking (·.database.url) (fun c v => { c with database.url := v }) fun _ => rfl,
    Override.apply_reading (·.database.maxConnections)
      (fun c n => { c with database.maxConnections := n }) fun _ => rfl,
    Override.apply_reading (·.ai.isEnabled) (fun c b => { c with ai.isEnabled := b }) fun _ => rfl,
    Override.apply_taking (·.ai.provider) (fun c v => { c with ai.provider := v }) fun _ => rfl,
    Override.apply_taking (·.ai.model) (fun c v => { c with ai.model := v }) fun _ => rfl,
    Override.apply_reading (·.ai.temperature)
      (fun c x => { c with ai.temperature := x }) fun _ => rfl,
    Override.apply_taking (·.ai.baseUrl) (fun c v => { c with ai.baseUrl := v }) fun _ => rfl,
    Override.apply_reading (·.ai.timeoutSecs)
      (fun c n => { c with ai.timeoutSecs := n }) fun _ => rfl,
    Override.apply_taking (·.queue.kind) (fun c v => { c with queue.kind := v }) fun _ => rfl,
    Override.apply_reading (·.queue.workerCount)
      (fun c n => { c with queue.workerCount := n }) fun _ => rfl,
    Override.apply_reading (·.queue.bufferSize)
      (fun c n => { c with queue.bufferSize := n }) fun _ => rfl,
    Override.apply_reading (·.queue.pollIntervalMs)
      (fun c n => { c with queue.pollIntervalMs := n }) fun _ => rfl]
  rfl

theorem overridden_overridden (e : Lookup) (c : Config) :
    (c.overridden e).overridden e = c.overridden e := by
  simp only [overridden, Lookup.value_value, firstNonEmpty_again]

theorem isUniform_overrides : ∀ o ∈ overrides, o.IsUniform := by
  simp [overrides, Override.IsUniform, Override.reader]

theorem map_reader_overrides : overrides.map Override.reader = readers := by
  simp [overrides, readers, Override.reader, isUnsigned, isText, funext_iff]

section

variable {e e' : Lookup} {c : Config} {o : Override} {os done rest : List Override} {v : String}

private theorem applyOverrides_cons_of_reads (uniform : o.IsUniform)
    (read : e.reads o.reader = true) :
    applyOverrides e c (o :: os) = applyOverrides e (Override.apply e c o) os := by
  unfold Override.apply
  rw [applyOverrides]
  cases set : given e o.key with
  | none => rfl
  | some v =>
    have reads : (o.put? c v).isSome = true :=
      (uniform c v).trans ((Option.all_eq_true _ _).mp read v set)
    obtain ⟨c', put⟩ := Option.isSome_iff_exists.mp reads
    simp [put]

private theorem applyOverrides_cons_of_misread (uniform : o.IsUniform)
    (set : given e o.key = some v) (misread : o.reader.2 v = false) :
    applyOverrides e c (o :: os) = (c, some (invalidValue o.key v)) := by
  have put : o.put? c v = none := by
    rw [← Option.not_isSome_iff_eq_none, uniform c v, misread]
    exact Bool.false_ne_true
  simp only [applyOverrides, set, put]

theorem applyOverrides_append (uniform : ∀ o ∈ done, o.IsUniform)
    (read : ∀ o ∈ done, e.reads o.reader = true) :
    applyOverrides e c (done ++ rest) =
      applyOverrides e (done.foldl (Override.apply e) c) rest := by
  induction done generalizing c with
  | nil => rfl
  | cons o done ih =>
    obtain ⟨first, uniform⟩ := List.forall_mem_cons.mp uniform
    obtain ⟨firstRead, read⟩ := List.forall_mem_cons.mp read
    rw [List.cons_append, applyOverrides_cons_of_reads first firstRead, ih uniform read,
      List.foldl_cons]

private theorem applyOverrides_congr (same : ∀ o ∈ os, given e' o.key = given e o.key) :
    applyOverrides e' c os = applyOverrides e c os := by
  induction os generalizing c with
  | nil => rfl
  | cons o os ih =>
    obtain ⟨first, same⟩ := List.forall_mem_cons.mp same
    simp only [applyOverrides, first, ih same]

private theorem foldl_apply_only (distinct : ((done ++ rest).map (·.key)).Nodup) :
    (done ++ rest).foldl (Override.apply (e.only (done.map (·.key)))) c =
      done.foldl (Override.apply e) c := by
  rw [List.map_append, List.nodup_append] at distinct
  obtain ⟨-, -, apart⟩ := distinct
  have seen : ∀ c, ∀ o ∈ done,
      Override.apply (e.only (done.map (·.key))) c o = Override.apply e c o := fun _ _ h =>
    Override.apply_congr (Lookup.given_only_of_mem (List.mem_map_of_mem h))
  have unseen : ∀ c, ∀ o ∈ rest, Override.apply (e.only (done.map (·.key))) c o = c := fun _ _ h =>
    Override.apply_of_unset <| Lookup.given_only_of_notMem fun h' =>
      apart _ h' _ (List.mem_map_of_mem h) rfl
  rw [List.foldl_append, List.foldl_ext _ _ c seen, List.foldl_ext _ (fun c _ => c) _ unseen,
    List.foldl_fixed]

end

variable {c : Config} {e e' : Lookup} {done rest : List (String × (String → Bool))}
  {r : String × (String → Bool)} {v : String}

theorem applyEnvironment_congr (same : ∀ r ∈ readers, given e' r.1 = given e r.1) :
    c.applyEnvironment e' = c.applyEnvironment e := by
  rw [← map_reader_overrides, List.forall_mem_map] at same
  exact applyOverrides_congr same

theorem applyEnvironment_of_reads (read : ∀ r ∈ readers, e.reads r = true) :
    c.applyEnvironment e = (c.overridden e, none) := by
  rw [← map_reader_overrides, List.forall_mem_map] at read
  calc c.applyEnvironment e
    _ = applyOverrides e c (overrides ++ []) := by rw [List.append_nil, applyEnvironment]
    _ = (overrides.foldl (Override.apply e) c, none) :=
        applyOverrides_append isUniform_overrides read
    _ = (c.overridden e, none) := by rw [foldl_overrides]

/-- The first value that cannot be read ends it, and only the variables before it have counted. -/
theorem applyEnvironment_of_misread (split : readers = done ++ r :: rest)
    (read : ∀ r ∈ done, e.reads r = true) (set : given e r.1 = some v) (misread : r.2 v = false) :
    c.applyEnvironment e =
      (c.overridden (e.only (done.map Prod.fst)), some (invalidValue r.1 v)) := by
  have uniform := isUniform_overrides
  have distinct : (overrides.map (·.key)).Nodup := by decide
  -- The variable splits the overrides as it splits the variables.
  rw [← map_reader_overrides] at split
  obtain ⟨before, behind, parts, rfl, behindParts⟩ := List.map_eq_append_iff.mp split
  obtain ⟨o, after, rfl, rfl, rfl⟩ := List.map_eq_cons_iff.mp behindParts
  rw [parts] at uniform distinct
  obtain ⟨uniform, others⟩ := List.forall_mem_append.mp uniform
  obtain ⟨here, -⟩ := List.forall_mem_cons.mp others
  rw [List.forall_mem_map] at read
  rw [applyEnvironment, parts, applyOverrides_append uniform read,
    applyOverrides_cons_of_misread here set misread, ← foldl_overrides, parts, List.map_map]
  exact congrArg (·, _) (foldl_apply_only distinct).symm

/-- What stands before a value that cannot be read counts, and what stands behind it does not. -/
example :
    Config.standard.applyEnvironment (fun key =>
        if key = "NOKER_ENV" then some "production"
        else if key = "NOKER_WORKER_COUNT" then some "many"
        else if key = "NOKER_POLL_INTERVAL_MS" then some "5" else none) =
      ({ Config.standard with environment := "production" },
        some (.config "invalid value for NOKER_WORKER_COUNT: 'many'")) := by
  decide +kernel

theorem reads_or_misreads (e : Lookup) :
    (∀ r ∈ readers, e.reads r = true) ∨
      ∃ done r rest v, readers = done ++ r :: rest ∧ (∀ r ∈ done, e.reads r = true) ∧
        given e r.1 = some v ∧ r.2 v = false := by
  cases found : readers.find? fun r => !e.reads r with
  | none => exact .inl (by simpa using List.find?_eq_none.mp found)
  | some r =>
    obtain ⟨misread, done, rest, split, read⟩ := List.find?_eq_some_iff_append.mp found
    obtain ⟨v, set, misread⟩ := Lookup.reads_eq_false_iff.mp (by simpa using misread)
    exact .inr ⟨done, r, rest, v, split, by simpa using read, set, misread⟩

/-- Overrides succeed if every variable that is set to something has a value that can be read, and
then each field is settled by its own variable. Otherwise the first value that cannot be read is
complained of, the fields of the variables before it are settled and all others are left as they
are. Other variables make no difference, and neither does a second time. -/
theorem overrides_compose (c : Config) (e : Lookup) :
    ((c.applyEnvironment e).2 = none ↔ ∀ r ∈ readers, e.reads r = true) ∧
    ((c.applyEnvironment e).2 = none → (c.applyEnvironment e).1 = c.overridden e) ∧
    (∀ error, (c.applyEnvironment e).2 = some error →
      ∃ done key test rest v, readers = done ++ (key, test) :: rest ∧
        (∀ r ∈ done, e.reads r = true) ∧ given e key = some v ∧ test v = false ∧
        error = .config ("invalid value for " ++ key ++ ": '" ++ v ++ "'") ∧
        (c.applyEnvironment e).1 = c.overridden (e.only (done.map Prod.fst))) ∧
    (∀ e', (∀ r ∈ readers, given e' r.1 = given e r.1) →
      c.applyEnvironment e' = c.applyEnvironment e) ∧
    (c.applyEnvironment e).1.applyEnvironment e = c.applyEnvironment e := by
  rcases reads_or_misreads e with read | ⟨done, r, rest, v, split, read, set, misread⟩
  · have settled := fun c => applyEnvironment_of_reads (c := c) read
    rw [settled c, settled (c.overridden e), overridden_overridden]
    exact ⟨⟨fun _ => read, fun _ => rfl⟩, fun _ => rfl, nofun,
      fun e' same => (applyEnvironment_congr same).trans (settled c), rfl⟩
  · have stopped := fun c => applyEnvironment_of_misread (c := c) split read set misread
    have listed : r ∈ readers := split ▸ List.mem_append_right done List.mem_cons_self
    have unread : ¬ ∀ r ∈ readers, e.reads r = true := fun all =>
      Bool.eq_false_iff.mp (Lookup.reads_eq_false_iff.mpr ⟨v, set, misread⟩) (all r listed)
    rw [stopped c, stopped (c.overridden _), overridden_overridden]
    refine ⟨⟨nofun, fun all => absurd all unread⟩, nofun, ?_,
      fun e' same => (applyEnvironment_congr same).trans (stopped c), rfl⟩
    rintro _ ⟨⟩
    exact ⟨done, r.1, r.2, rest, v, split, read, set, misread, rfl, rfl⟩

end MeetingInsights.Config
