import MeetingInsights.Catalog
import MeetingInsights.Meeting
import MeetingInsights.Text.Ellipsis

/-! # Prompts

What a language model is told: its task, the notes of one meeting, and the roster of opportunities it
may match, one line each.
-/

namespace MeetingInsights.Prompt

/-- The task, the same for every meeting. -/
def system : String :=
    "You are a product discovery analyst. You read raw customer meeting notes and pull out the " ++
    "customer problems (\"opportunities\") they describe.\n" ++
    "\n" ++
    "You are also given the list of opportunities that already exist. Avoid duplicates:\n" ++
    "- If a problem in the notes is the same underlying problem as an existing opportunity, even " ++
    "when worded differently, return it as a \"match\" with that opportunity's id copied exactly " ++
    "from the list.\n" ++
    "- Only return \"new\" when no existing opportunity describes the same problem.\n" ++
    "- A meeting may contain several problems; return one result per distinct problem.\n" ++
    "\n" ++
    "For new opportunities:\n" ++
    "- user_segment: who has the problem, in a few words.\n" ++
    "- struggle: the problem itself, at most 10 words, stated from the customer's side.\n" ++
    "- why_it_matters: the impact on the customer, or null.\n" ++
    "- workaround: what they do today instead, or null.\n" ++
    "- theme: a short category of at most 3 words, or null.\n" ++
    "\n" ++
    "For every result, include evidence_quotes: verbatim quotes from the notes that show the " ++
    "problem, each with optional context.\n" ++
    "\n" ++
    "Respond with a single JSON object and nothing else:\n" ++
    "\x7b\n" ++
    "  \"results\": [\n" ++
    "    \x7b\n" ++
    "      \"type\": \"match\" | \"new\",\n" ++
    "      \"existing_opportunity_id\": \"<uuid from the list, only for match>\",\n" ++
    "      \"user_segment\": \"...\",\n" ++
    "      \"struggle\": \"...\",\n" ++
    "      \"why_it_matters\": \"...\",\n" ++
    "      \"workaround\": \"...\",\n" ++
    "      \"theme\": \"...\",\n" ++
    "      \"evidence_quotes\": [\x7b\"quote\": \"...\", \"context\": \"...\"\x7d]\n" ++
    "    \x7d\n" ++
    "  ]\n" ++
    "\x7d\n" ++
    "\n" ++
    "If the notes contain no customer problems, respond with \x7b\"results\": []\x7d."

/-- What stands for a roster without entries. -/
def emptyRoster : String := "None — this is the first meeting"

def struggleLimit : Nat := 100

def rosterLine (r : RosterEntry) : String :=
  r.opportunityId.toText ++ " | " ++ Text.truncateWithEllipsis r.struggle struggleLimit ++ " | " ++
    r.themeName.getD ""

def rosterText (roster : List RosterEntry) : String :=
  if roster.isEmpty then emptyRoster else String.intercalate "\n" (roster.map rosterLine)

def user (m : Meeting) (roster : List RosterEntry) : String :=
  "Meeting\nTitle: " ++ m.title ++ "\nSource: " ++ m.source.name ++ "\n\nNotes:\n\"\"\"\n" ++
    m.rawNotes ++ "\n\"\"\"\n\nExisting opportunities (id | struggle | theme):\n" ++
    rosterText roster ++
    "\n\nReturn the matches and new opportunities as the JSON object described above."

@[simp] theorem rosterText_nil : rosterText [] = emptyRoster := rfl

end MeetingInsights.Prompt
