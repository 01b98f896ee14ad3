import MeetingInsights.Chat.Client
import MeetingInsights.Notice
import MeetingInsights.Text.Blank

/-! # Choice of a provider

There is one kind of provider, and an unknown name falls back to it with a warning.
-/

namespace MeetingInsights.Chat

def providerName : String := "openai"

def unknownProvider (name : String) : Notice :=
  ⟨"Unknown extraction provider, falling back",
    [("subsystem", "inference"), ("provider", name), ("fallback", providerName)]⟩

/-- The warnings that a provider's name gives rise to, white space and letter case aside. -/
def nameNotices (name : String) : List Notice :=
  let name := Text.lowercase (Text.trim name)
  if name = providerName ∨ name.isEmpty then [] else [unknownProvider name]

def missingKey : Notice :=
  ⟨"No API key configured; requests will be unauthenticated",
    [("subsystem", "inference"), ("component", providerName)]⟩

/-- The endpoint of a configuration, and the warnings that it gives rise to. -/
def select (c : Config.Ai) : Endpoint × List Notice :=
  let e := Endpoint.ofConfig c
  (e, nameNotices c.provider ++ if e.apiKey.isNone then [missingKey] else [])

end MeetingInsights.Chat
