import MeetingInsights.Chat.Client
import MeetingInsights.Text.Quoted

/-! # Summaries of settings

Settings on one line, as they are shown where a secret must not appear: of a key it only shows
whether there is one.
-/

namespace MeetingInsights

namespace Config

def redacted : String := "<redacted>"

/-- A name, and settings with theirs between braces. -/
def summaryOf (name : String) (settings : List (String × String)) : String :=
  name ++ " \x7b " ++ ", ".intercalate (settings.map fun (k, v) => k ++ ": " ++ v) ++ " \x7d"

/-- A temperature; one that is a whole number has a point all the same. -/
def temperatureSummary (x : Number.Binary) : String := Number.Style.pointed.text Number.single x

def Ai.summary (c : Ai) : String :=
  summaryOf "AiConfig" [
    ("enabled", toString c.isEnabled),
    ("provider", Text.quoted c.provider),
    ("model", Text.quoted c.model),
    ("temperature", temperatureSummary c.temperature),
    ("api_key", Text.quoted (if c.apiKey.isEmpty then "" else redacted)),
    ("base_url", Text.quoted c.baseUrl),
    ("timeout_secs", toString c.timeoutSecs)]

end Config

def Chat.Endpoint.keySummary (key : Option String) : String :=
  match key with
  | some _ => "Some(" ++ Text.quoted Config.redacted ++ ")"
  | none => "None"

def Chat.Endpoint.summary (e : Chat.Endpoint) : String :=
  Config.summaryOf "OpenAIConfig" [
    ("base_url", Text.quoted e.baseUrl),
    ("api_key", keySummary e.apiKey),
    ("model", Text.quoted e.model),
    ("temperature", Config.temperatureSummary e.temperature),
    ("timeout_seconds", toString e.timeoutSecs)]

end MeetingInsights
