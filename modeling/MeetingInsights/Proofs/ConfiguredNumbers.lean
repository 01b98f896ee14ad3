import MeetingInsights.Config.File
import MeetingInsights.Proofs.EnvironmentOverrides
import MeetingInsights.Proofs.RecordFields
import MeetingInsights.Wire.Config

/-! # Numbers of configurations

A configured number is kept in a word of 32 or 64 bits. Wherever the number comes from, it fits:
from a file, from the environment or from JSON, which gives all settings of the connection that fit
and no others.
-/

namespace MeetingInsights

namespace Yaml

variable {α β : Type} {P : α → Prop} {fields : List (RecordField α)} {a b : α}

def RecordField.Keeps (P : α → Prop) (f : RecordField α) : Prop :=
  ∀ d n a b, f.set? d n a = some b → P a → P b

theorem RecordField.Keeps.of {name : String} {decode : Decoder β} {set : α → β → α}
    (keeps : ∀ {d n v}, decode d n = some v → ∀ {a}, P a → P (set a v)) :
    (RecordField.of name decode set).Keeps P := by
  intro d n a b read before
  obtain ⟨v, decoded, set⟩ := Option.map_eq_some_iff.mp read
  cases set
  exact keeps decoded before

private theorem setFields?_keeps (keeps : ∀ f ∈ fields, f.Keeps P) {d : Document}
    {known : List String} {es : List (Node × Node)} (read : setFields? fields d a known es = some b)
    (before : P a) : P b := by
  induction es generalizing a known with
  | nil =>
    cases read
    exact before
  | cons e es ih =>
    obtain ⟨name, -, read⟩ := Option.bind_eq_some_iff.mp read
    split at read
    case h_1 => exact ih read before
    case h_2 f found =>
      obtain ⟨-, -, read⟩ := Option.bind_eq_some_iff.mp read
      obtain ⟨a', set, read⟩ := Option.bind_eq_some_iff.mp read
      exact ih read (keeps f (List.mem_of_find?_eq_some found) d e.2 a a' set before)

/-- A record has every property that its standard has and that setting its fields keeps. -/
theorem record_keeps (keeps : ∀ f ∈ fields, f.Keeps P) {d : Document} {n : Node}
    (read : record fields a d n = some b) (standard : P a) : P b := by
  obtain ⟨es, -, read⟩ := Option.bind_eq_some_iff.mp read
  exact setFields?_keeps keeps read standard

theorem lt_of_unsigned {bits v : Nat} {d : Document} {n : Node}
    (read : unsigned bits d n = some v) : v < Nat.pow 2 bits := by
  obtain ⟨text, -, read⟩ := Option.bind_eq_some_iff.mp read
  obtain ⟨w, -, read⟩ := Option.bind_eq_some_iff.mp read
  obtain ⟨_, checked, read⟩ := Option.bind_eq_some_iff.mp read
  obtain ⟨fits, -⟩ := Option.ite_none_right_eq_some.mp checked
  exact Option.some.inj read ▸ fits

end Yaml

namespace Config

structure Database.Fits (c : Database) : Prop where
  maxConnections : c.maxConnections < Nat.pow 2 32
  minConnections : c.minConnections < Nat.pow 2 32
  connectTimeoutSecs : c.connectTimeoutSecs < Nat.pow 2 64
  idleTimeoutSecs : c.idleTimeoutSecs < Nat.pow 2 64
  maxLifetimeMins : c.maxLifetimeMins < Nat.pow 2 64

structure Ai.Fits (c : Ai) : Prop where
  timeoutSecs : c.timeoutSecs < Nat.pow 2 64

structure Queue.Fits (c : Queue) : Prop where
  workerCount : c.workerCount < Nat.pow 2 64
  bufferSize : c.bufferSize < Nat.pow 2 64
  pollIntervalMs : c.pollIntervalMs < Nat.pow 2 64

/-- Every number of a configuration fits into its word. -/
structure Fits (c : Config) : Prop where
  database : c.database.Fits
  ai : c.ai.Fits
  queue : c.queue.Fits

theorem Database.fits_standard : Database.standard.Fits := by
  constructor <;> decide

theorem Ai.fits_standard : Ai.standard.Fits := ⟨by decide⟩

theorem Queue.fits_standard : Queue.standard.Fits := by
  constructor <;> decide

theorem fits_standard : Config.standard.Fits :=
  ⟨Database.fits_standard, Ai.fits_standard, Queue.fits_standard⟩

theorem Database.keeps_fields : ∀ f ∈ Database.fields, f.Keeps Database.Fits := by
  simp only [Database.fields, List.forall_mem_cons]
  refine ⟨?_, ?_, ?_, ?_, ?_, ?_, nofun⟩
  · exact .of fun _ _ fits => { fits with }
  · exact .of fun read _ fits => { fits with maxConnections := Yaml.lt_of_unsigned read }
  · exact .of fun read _ fits => { fits with minConnections := Yaml.lt_of_unsigned read }
  · exact .of fun read _ fits => { fits with connectTimeoutSecs := Yaml.lt_of_unsigned read }
  · exact .of fun read _ fits => { fits with idleTimeoutSecs := Yaml.lt_of_unsigned read }
  · exact .of fun read _ fits => { fits with maxLifetimeMins := Yaml.lt_of_unsigned read }

theorem Ai.keeps_fields : ∀ f ∈ Ai.fields, f.Keeps Ai.Fits := by
  simp only [Ai.fields, List.forall_mem_cons]
  refine ⟨?_, ?_, ?_, ?_, ?_, ?_, ?_, nofun⟩
  iterate 6 exact .of fun _ _ fits => { fits with }
  exact .of fun read _ _ => ⟨Yaml.lt_of_unsigned read⟩

theorem Queue.keeps_fields : ∀ f ∈ Queue.fields, f.Keeps Queue.Fits := by
  simp only [Queue.fields, List.forall_mem_cons]
  refine ⟨?_, ?_, ?_, ?_, nofun⟩
  · exact .of fun _ _ fits => { fits with }
  · exact .of fun read _ fits => { fits with workerCount := Yaml.lt_of_unsigned read }
  · exact .of fun read _ fits => { fits with bufferSize := Yaml.lt_of_unsigned read }
  · exact .of fun read _ fits => { fits with pollIntervalMs := Yaml.lt_of_unsigned read }

theorem keeps_fields : ∀ f ∈ fields, f.Keeps Fits := by
  simp only [fields, List.forall_mem_cons]
  refine ⟨?_, ?_, ?_, ?_, nofun⟩
  · exact .of fun _ _ fits => { fits with }
  · exact .of fun read _ fits =>
      { fits with database := Yaml.record_keeps Database.keeps_fields read Database.fits_standard }
  · exact .of fun read _ fits =>
      { fits with ai := Yaml.record_keeps Ai.keeps_fields read Ai.fits_standard }
  · exact .of fun read _ fits =>
      { fits with queue := Yaml.record_keeps Queue.keeps_fields read Queue.fits_standard }

private theorem fits_ofYaml? {s : String} {c : Config} (read : ofYaml? s = some c) : c.Fits := by
  unfold ofYaml? at read
  split at read
  · cases read
    exact fits_standard
  · obtain ⟨d, -, read⟩ := Option.bind_eq_some_iff.mp read
    split at read
    · cases read
      exact fits_standard
    · exact Yaml.record_keeps keeps_fields read fits_standard

theorem lt_of_unsignedInteger? {bits n : Nat} {s : String}
    (read : Number.unsignedInteger? bits s = some n) : n < Nat.pow 2 bits := by
  unfold Number.unsignedInteger? at read
  obtain ⟨-, read⟩ := Option.ite_none_left_eq_some.mp read
  obtain ⟨fits, read⟩ := Option.ite_none_right_eq_some.mp read
  exact Option.some.inj read ▸ fits

theorem Lookup.value_keeps {α : Type} {P : α → Prop} {read? : String → Option α} {old : α}
    (read : ∀ {v a}, read? v = some a → P a) (e : Lookup) (key : String) (before : P old) :
    P (e.value key read? old) := by
  unfold Lookup.value
  cases result : (given e key).bind read? with
  | none => exact before
  | some a =>
    obtain ⟨v, -, result⟩ := Option.bind_eq_some_iff.mp result
    exact read result

theorem Fits.overridden {c : Config} (fits : c.Fits) (e : Lookup) : (c.overridden e).Fits where
  database := { fits.database with
    maxConnections := Lookup.value_keeps lt_of_unsignedInteger? _ _ fits.database.maxConnections }
  ai := ⟨Lookup.value_keeps lt_of_unsignedInteger? _ _ fits.ai.timeoutSecs⟩
  queue := {
    workerCount := Lookup.value_keeps lt_of_unsignedInteger? _ _ fits.queue.workerCount
    bufferSize := Lookup.value_keeps lt_of_unsignedInteger? _ _ fits.queue.bufferSize
    pollIntervalMs := Lookup.value_keeps lt_of_unsignedInteger? _ _ fits.queue.pollIntervalMs }

theorem Fits.applyEnvironment {c : Config} (fits : c.Fits) (e : Lookup) :
    (c.applyEnvironment e).1.Fits := by
  rcases reads_or_misreads e with read | ⟨done, r, rest, v, split, read, set, misread⟩
  · rw [applyEnvironment_of_reads read]
    exact fits.overridden e
  · rw [applyEnvironment_of_misread split read set misread]
    exact fits.overridden _

theorem Fits.validate {c : Config} (fits : c.Fits) : c.validate.config.Fits := by
  have settled : c.settleQueueKind.1.Fits := by
    unfold settleQueueKind
    split
    · exact fits
    · exact { fits with queue := { fits.queue with } }
  unfold Config.validate
  split
  · exact fits
  split
  · exact fits
  split
  · exact fits
  dsimp only
  split <;> exact settled

private theorem fits_ofFile {f : File} {c : Config} (read : ofFile f = .ok c) : c.Fits := by
  unfold ofFile at read
  split at read
  case h_1 =>
    cases read
    exact fits_standard
  case h_2 =>
    split at read
    case h_1 => cases read
    case h_2 text _ =>
      cases document : ofYaml? text with
      | none => simp [document] at read
      | some c₀ =>
        simp only [document] at read
        cases read
        exact fits_ofYaml? document

theorem Fits.settle {c c' : Config} (fits : c.Fits) {e : Lookup} (settled : c.settle e = .ok c') :
    c'.Fits := by
  have applied := fits.applyEnvironment e
  unfold Config.settle at settled
  split at settled
  case h_1 => cases settled
  case h_2 c₁ overridden =>
    rw [overridden] at applied
    have validated := applied.validate
    split at settled
    case h_1 => cases settled
    case h_2 verdict =>
      cases settled
      rwa [verdict] at validated

/-- Every number of a configuration that can be loaded fits into its word. -/
theorem fits_load {f : File} {e : Lookup} {c : Config} (loaded : load f e = .ok c) : c.Fits := by
  cases read : ofFile f with
  | error reason => simp [load, read] at loaded
  | ok c₀ =>
    cases settled : c₀.settle e with
    | error reason => simp [load, read, settled] at loaded
    | ok c₁ =>
      simp only [load, read, settled] at loaded
      cases loaded
      exact (fits_ofFile read).settle settled

end Config

namespace Json

variable {bits depth n : Nat}

theorem lt_of_unsigned {d : Doc} (read : unsigned bits depth d = some n) : n < Nat.pow 2 bits := by
  obtain ⟨i, integral, rfl⟩ := Option.map_eq_some_iff.mp read
  cases d with
  | number m =>
    obtain ⟨j, -, within⟩ := Option.bind_eq_some_iff.mp integral
    obtain ⟨bounds, same⟩ := Option.ite_none_right_eq_some.mp within
    cases same
    omega
  | _ => cases integral

private theorem unsigned_toDoc (narrow : bits ≤ 64) (fits : n < Nat.pow 2 bits) :
    unsigned bits depth (toDoc (.int n)) = some n := by
  have wider : Nat.pow 2 bits ≤ Nat.pow 2 64 := Nat.pow_le_pow_right (by decide) narrow
  have numeral : fitsNumeral n = true := decide_eq_true ⟨by omega, by omega⟩
  rw [unsigned, toDoc, integer, int?_ofInt numeral, Option.bind_some, if_pos (by omega)]
  rfl

theorem Slot.lt_of_withDefault {slot : Slot} {value : Nat} (standard : value < Nat.pow 2 bits)
    (read : slot.withDefault value (unsigned bits) depth = some n) : n < Nat.pow 2 bits := by
  cases slot with
  | given d => exact lt_of_unsigned read
  | absent | beyond =>
    cases read
    exact standard

end Json

namespace Config.Database

open Json

theorem slots_toJson {depth : Nat} (room : depth < maxDepth) (c : Database) :
    slots? fieldNames depth c.toJson.toDoc =
      some [.of (some (.str c.url)), .of (some (.int c.maxConnections)),
        .of (some (.int c.minConnections)), .of (some (.int c.connectTimeoutSecs)),
        .of (some (.int c.idleTimeoutSecs)), .of (some (.int c.maxLifetimeMins))] := by
  rw [toJson, slots?_toDoc room (by decide) ?_]
  · simp [fieldNames, lookup_cons]
  · exact .refl _

private theorem fits_of_decode {depth : Nat} {d : Doc} {c : Database}
    (read : decode depth d = some c) : c.Fits := by
  simp only [decode, Option.bind_eq_bind, Option.bind_eq_some_iff] at read
  obtain ⟨slots, -, read⟩ := read
  split at read
  case h_2 => cases read
  case h_1 =>
    simp only [Option.bind_eq_some_iff, Option.pure_def, Option.some.injEq] at read
    obtain ⟨_, -, _, most, _, least, _, connect, _, idle, _, lifetime, rfl⟩ := read
    exact {
      maxConnections := Slot.lt_of_withDefault fits_standard.maxConnections most
      minConnections := Slot.lt_of_withDefault fits_standard.minConnections least
      connectTimeoutSecs := Slot.lt_of_withDefault fits_standard.connectTimeoutSecs connect
      idleTimeoutSecs := Slot.lt_of_withDefault fits_standard.idleTimeoutSecs idle
      maxLifetimeMins := Slot.lt_of_withDefault fits_standard.maxLifetimeMins lifetime }

theorem decode_toJson_eq_some_iff {depth : Nat} (room : depth < maxDepth) {c : Database} :
    decode depth c.toJson.toDoc = some c ↔ c.Fits := by
  refine ⟨fits_of_decode, fun fits => ?_⟩
  simp [decode, slots_toJson room, unsigned_toDoc, fits.maxConnections, fits.minConnections,
    fits.connectTimeoutSecs, fits.idleTimeoutSecs, fits.maxLifetimeMins]

end Config.Database

end MeetingInsights
