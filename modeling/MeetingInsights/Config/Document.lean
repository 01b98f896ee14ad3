import MeetingInsights.Config.Basic
import MeetingInsights.Text.Blank
import MeetingInsights.Yaml.Value

/-! # Configurations in YAML

Every section and every setting may be left out and then has its standard value.
-/

namespace MeetingInsights.Config

open Yaml (RecordField)

def Database.fields : List (RecordField Database) := [
  .of "url" Yaml.text fun c v => { c with url := v },
  .of "max_connections" (Yaml.unsigned 32) fun c v => { c with maxConnections := v },
  .of "min_connections" (Yaml.unsigned 32) fun c v => { c with minConnections := v },
  .of "connect_timeout_secs" (Yaml.unsigned 64) fun c v => { c with connectTimeoutSecs := v },
  .of "idle_timeout_secs" (Yaml.unsigned 64) fun c v => { c with idleTimeoutSecs := v },
  .of "max_lifetime_mins" (Yaml.unsigned 64) fun c v => { c with maxLifetimeMins := v }]

def Ai.fields : List (RecordField Ai) := [
  .of "enabled" Yaml.flag fun c v => { c with isEnabled := v },
  .of "provider" Yaml.text fun c v => { c with provider := v },
  .of "model" Yaml.text fun c v => { c with model := v },
  .of "temperature" (Yaml.number Number.single) fun c v => { c with temperature := v },
  .of "api_key" Yaml.text fun c v => { c with apiKey := v },
  .of "base_url" Yaml.text fun c v => { c with baseUrl := v },
  .of "timeout_secs" (Yaml.unsigned 64) fun c v => { c with timeoutSecs := v }]

def Queue.fields : List (RecordField Queue) := [
  .of "type" Yaml.text fun c v => { c with kind := v },
  .of "worker_count" (Yaml.unsigned 64) fun c v => { c with workerCount := v },
  .of "buffer_size" (Yaml.unsigned 64) fun c v => { c with bufferSize := v },
  .of "poll_interval_ms" (Yaml.unsigned 64) fun c v => { c with pollIntervalMs := v }]

def fields : List (RecordField Config) := [
  .of "env" Yaml.text fun c v => { c with environment := v },
  .of "database" (Yaml.record Database.fields .standard) fun c v => { c with database := v },
  .of "ai" (Yaml.record Ai.fields .standard) fun c v => { c with ai := v },
  .of "queue" (Yaml.record Queue.fields .standard) fun c v => { c with queue := v }]

/-- Reads a configuration. A text without a document is a configuration without settings. -/
def ofYaml? (s : String) : Option Config :=
  if (Text.trim s).isEmpty then some .standard
  else do
    let d ← Yaml.Document.ofText? s
    match d.root with
    | none => return .standard
    | some n => Yaml.record fields .standard d n

end MeetingInsights.Config
