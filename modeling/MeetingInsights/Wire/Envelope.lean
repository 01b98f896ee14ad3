import MeetingInsights.Error
import MeetingInsights.Text.Blank
import MeetingInsights.Wire.Finding

/-! # The answer of a language model

A model is asked for one JSON object with its findings, and may put it into a code fence. An answer is
taken as a whole or not at all.
-/

namespace MeetingInsights.Envelope

def fence : List Char := List.replicate 3 '\x60'

def languageTag : List Char := ['j', 's', 'o', 'n']

def dropMark (mark cs : List Char) : List Char :=
  if mark.isPrefixOf cs then cs.drop mark.length else cs

def dropEndMark (mark cs : List Char) : List Char :=
  if mark.isSuffixOf cs then cs.take (cs.length - mark.length) else cs

/-- What stands inside a code fence, or all of it without one. -/
def unfence (cs : List Char) : List Char :=
  if fence.isPrefixOf cs then
    Text.trimChars (dropEndMark fence (dropMark languageTag (cs.drop fence.length)))
  else cs

def body (content : String) : List Char := unfence (Text.trimChars content.toList)

def fieldNames : List String := ["results"]

/-- Reads the object with its findings; none are found unless it gives them. -/
def decode : Json.Decoder (List Finding) := fun depth d => do
  match ← Json.slots? fieldNames depth d with
  | [results] => results.withDefault [] (Json.list Finding.decode) (depth + 1)
  | _ => none

def toJson (findings : List Finding) : Json := .obj [("results", .arr (findings.map Finding.toJson))]

def emptyAnswer : Error := .extraction "empty response from LLM"

def unreadableAnswer : Error := .extraction "failed to parse LLM response"

def read (content : String) : Except Error (List Finding) :=
  let body := body content
  if body.isEmpty then .error emptyAnswer
  else
    match Json.decode? decode (String.ofList body) with
    | some findings => .ok findings
    | none => .error unreadableAnswer

end MeetingInsights.Envelope
