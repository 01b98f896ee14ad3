import MeetingInsights.Config.Basic
import MeetingInsights.Error

/-! # Overrides from the environment

Each variable that is set to something replaces one field of the configuration. The variables are
read in a fixed order, and the first whose value cannot be read ends it, with the fields before it
replaced.
-/

namespace MeetingInsights.Config

/-- The environment: the value of each variable that is set. -/
abbrev Lookup := String → Option String

/-- A variable, and what its value makes of a configuration unless the value cannot be read. -/
structure Override where
  key : String
  put? : Config → String → Option Config

def flag? (s : String) : Option Bool :=
  if s = "true" then some true else if s = "false" then some false else none

def setApiKey (c : Config) (v : String) : Config := { c with ai.apiKey := v }

/-- The overrides in the order in which they are applied. The key has two variables: the second one
counts only where neither the first nor the configuration gives a key. -/
def overrides : List Override := [
  ⟨"NOKER_ENV", fun c v => some { c with environment := v }⟩,
  ⟨"DATABASE_URL", fun c v => some { c with database.url := v }⟩,
  ⟨"NOKER_DB_MAX_CONNECTIONS", fun c v =>
    (Number.unsignedInteger? 32 v).map fun n => { c with database.maxConnections := n }⟩,
  ⟨"NOKER_AI_ENABLED", fun c v => (flag? v).map fun b => { c with ai.isEnabled := b }⟩,
  ⟨"NOKER_AI_PROVIDER", fun c v => some { c with ai.provider := v }⟩,
  ⟨"NOKER_AI_MODEL", fun c v => some { c with ai.model := v }⟩,
  ⟨"NOKER_AI_TEMPERATURE", fun c v =>
    (Number.single.parse? v).map fun x => { c with ai.temperature := x }⟩,
  ⟨"NOKER_AI_API_KEY", fun c v => some (setApiKey c v)⟩,
  ⟨"OPENAI_API_KEY", fun c v => some (if c.ai.apiKey.isEmpty then setApiKey c v else c)⟩,
  ⟨"OPENAI_BASE_URL", fun c v => some { c with ai.baseUrl := v }⟩,
  ⟨"NOKER_AI_TIMEOUT_SECS", fun c v =>
    (Number.unsignedInteger? 64 v).map fun n => { c with ai.timeoutSecs := n }⟩,
  ⟨"NOKER_QUEUE_TYPE", fun c v => some { c with queue.kind := v }⟩,
  ⟨"NOKER_WORKER_COUNT", fun c v =>
    (Number.unsignedInteger? 64 v).map fun n => { c with queue.workerCount := n }⟩,
  ⟨"NOKER_QUEUE_BUFFER_SIZE", fun c v =>
    (Number.unsignedInteger? 64 v).map fun n => { c with queue.bufferSize := n }⟩,
  ⟨"NOKER_POLL_INTERVAL_MS", fun c v =>
    (Number.unsignedInteger? 64 v).map fun n => { c with queue.pollIntervalMs := n }⟩]

def invalidValue (key value : String) : Error :=
  .config ("invalid value for " ++ key ++ ": '" ++ value ++ "'")

def given (lookup : Lookup) (key : String) : Option String :=
  (lookup key).filter fun v => !v.isEmpty

/-- Applies overrides in order. The configuration that is reached comes with the complaint that ended
it. -/
def applyOverrides (lookup : Lookup) (c : Config) : List Override → Config × Option Error
  | [] => (c, none)
  | o :: os =>
    match given lookup o.key with
    | none => applyOverrides lookup c os
    | some v =>
      match o.put? c v with
      | some c => applyOverrides lookup c os
      | none => (c, some (invalidValue o.key v))

def applyEnvironment (c : Config) (lookup : Lookup) : Config × Option Error :=
  applyOverrides lookup c overrides

end MeetingInsights.Config
