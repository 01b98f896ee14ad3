import MeetingInsights.Config.Validation
import MeetingInsights.Json.Fields

/-! # Configurations in JSON

A temperature is written as text, so that infinite ones can be told.
-/

namespace MeetingInsights.Config

namespace Database

def fieldNames : List String :=
  ["url", "max_connections", "min_connections", "connect_timeout_secs", "idle_timeout_secs",
    "max_lifetime_mins"]

/-- Reads the settings of the connection; every field has its standard value unless it is given. -/
def decode : Json.Decoder Database := fun depth d => do
  match ← Json.slots? fieldNames depth d with
  | [url, most, least, connect, idle, lifetime] =>
    let inner := depth + 1
    return {
      url := ← url.withDefault standard.url Json.text inner
      maxConnections := ← most.withDefault standard.maxConnections (Json.unsigned 32) inner
      minConnections := ← least.withDefault standard.minConnections (Json.unsigned 32) inner
      connectTimeoutSecs := ←
        connect.withDefault standard.connectTimeoutSecs (Json.unsigned 64) inner
      idleTimeoutSecs := ← idle.withDefault standard.idleTimeoutSecs (Json.unsigned 64) inner
      maxLifetimeMins := ← lifetime.withDefault standard.maxLifetimeMins (Json.unsigned 64) inner }
  | _ => none

def toJson (c : Database) : Json :=
  .obj [("url", .str c.url), ("max_connections", .int c.maxConnections),
    ("min_connections", .int c.minConnections),
    ("connect_timeout_secs", .int c.connectTimeoutSecs),
    ("idle_timeout_secs", .int c.idleTimeoutSecs), ("max_lifetime_mins", .int c.maxLifetimeMins)]

end Database

def Ai.toJson (c : Ai) : Json :=
  .obj [("enabled", .bool c.isEnabled), ("provider", .str c.provider), ("model", .str c.model),
    ("temperature", .str (temperatureText c.temperature)), ("api_key", .str c.apiKey),
    ("base_url", .str c.baseUrl), ("timeout_secs", .int c.timeoutSecs)]

def Queue.toJson (c : Queue) : Json :=
  .obj [("type", .str c.kind), ("worker_count", .int c.workerCount),
    ("buffer_size", .int c.bufferSize), ("poll_interval_ms", .int c.pollIntervalMs)]

def toJson (c : Config) : Json :=
  .obj [("env", .str c.environment), ("database", c.database.toJson), ("ai", c.ai.toJson),
    ("queue", c.queue.toJson)]

end MeetingInsights.Config
