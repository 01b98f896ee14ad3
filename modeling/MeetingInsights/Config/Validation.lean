import MeetingInsights.Config.Environment
import MeetingInsights.Notice
import MeetingInsights.Number.Shortest

/-! # Validation of a configuration

Values that cannot be used are refused; an unknown kind of queue is replaced by the known one.
-/

namespace MeetingInsights.Config

def maxTemperature : Nat := 2

/-- The text of a temperature, as short as it can be and without an exponent. -/
def temperatureText (x : Number.Binary) : String := Number.Style.plain.text Number.single x

def mustBePositive (setting : String) : Error :=
  .config ("queue." ++ setting ++ " must be at least 1")

def temperatureOutOfRange (x : Number.Binary) : Error :=
  .config ("ai.temperature must be between 0 and 2, got " ++ temperatureText x)

def unknownQueueKind (kind : String) : Notice :=
  ⟨"Unknown queue type, falling back", [("queue_type", kind), ("fallback", queueKind)]⟩

/-- What validation leads to: the configuration, warnings, and the complaint that refuses it. -/
structure Verdict where
  config : Config
  notices : List Notice
  error : Option Error
deriving Inhabited

def settleQueueKind (c : Config) : Config × List Notice :=
  if c.queue.kind = queueKind then (c, [])
  else ({ c with queue.kind := queueKind }, [unknownQueueKind c.queue.kind])

def validate (c : Config) : Verdict :=
  if c.queue.workerCount = 0 then ⟨c, [], some (mustBePositive "worker_count")⟩
  else if c.queue.bufferSize = 0 then ⟨c, [], some (mustBePositive "buffer_size")⟩
  else if c.queue.pollIntervalMs = 0 then ⟨c, [], some (mustBePositive "poll_interval_ms")⟩
  else
    let (c, notices) := c.settleQueueKind
    if c.ai.temperature.inRange maxTemperature then ⟨c, notices, none⟩
    else ⟨c, notices, some (temperatureOutOfRange c.ai.temperature)⟩

end MeetingInsights.Config
