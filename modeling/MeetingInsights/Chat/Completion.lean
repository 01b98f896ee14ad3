import MeetingInsights.Json.Fields
import MeetingInsights.Json.Value

/-! # Chat completions

The messages of a chat, and what a chat endpoint answers: choices with a message each, or an error.
-/

namespace MeetingInsights.Chat

structure Message where
  role : String
  content : String
deriving DecidableEq, Repr, Inhabited

namespace Message

def system (content : String) : Message := ⟨"system", content⟩

def user (content : String) : Message := ⟨"user", content⟩

def fieldNames : List String := ["role", "content"]

/-- Reads a message; its content is empty unless it is given. -/
def decode : Json.Decoder Message := fun depth d => do
  match ← Json.slots? fieldNames depth d with
  | [role, content] =>
    let inner := depth + 1
    return {
      role := ← role.required Json.text inner
      content := ← content.withDefault "" Json.text inner }
  | _ => none

def toJson (m : Message) : Json := .obj [("role", .str m.role), ("content", .str m.content)]

end Message

structure Choice where
  message : Message
  finishReason : Option String
deriving DecidableEq, Repr, Inhabited

namespace Choice

def fieldNames : List String := ["message", "finish_reason"]

def decode : Json.Decoder Choice := fun depth d => do
  match ← Json.slots? fieldNames depth d with
  | [message, reason] =>
    let inner := depth + 1
    return {
      message := ← message.required Message.decode inner
      finishReason := ← reason.nullable Json.text inner }
  | _ => none

end Choice

structure Usage where
  promptTokens : Nat
  completionTokens : Nat
  totalTokens : Nat
deriving DecidableEq, Repr, Inhabited

namespace Usage

def fieldNames : List String := ["prompt_tokens", "completion_tokens", "total_tokens"]

/-- Reads the token counts, each an unsigned integer of 32 bits. -/
def decode : Json.Decoder Usage := fun depth d => do
  match ← Json.slots? fieldNames depth d with
  | [prompt, completion, total] =>
    let inner := depth + 1
    return {
      promptTokens := ← prompt.required (Json.unsigned 32) inner
      completionTokens := ← completion.required (Json.unsigned 32) inner
      totalTokens := ← total.required (Json.unsigned 32) inner }
  | _ => none

end Usage

structure Completion where
  id : String
  choices : List Choice
  usage : Option Usage
deriving DecidableEq, Repr, Inhabited

namespace Completion

def fieldNames : List String := ["id", "choices", "usage"]

def decode : Json.Decoder Completion := fun depth d => do
  match ← Json.slots? fieldNames depth d with
  | [id, choices, usage] =>
    let inner := depth + 1
    return {
      id := ← id.withDefault "" Json.text inner
      choices := ← choices.withDefault [] (Json.list Choice.decode) inner
      usage := ← usage.nullable Usage.decode inner }
  | _ => none

def firstContent? (c : Completion) : Option String := c.choices.head?.map fun x => x.message.content

end Completion

structure Complaint where
  message : String
  kind : String
  code : Option Json
deriving Inhabited

namespace Complaint

def innerFieldNames : List String := ["message", "type", "code"]

/-- Reads a complaint without its envelope. -/
def decodeInner : Json.Decoder Complaint := fun depth d => do
  match ← Json.slots? innerFieldNames depth d with
  | [message, kind, code] =>
    let inner := depth + 1
    return {
      message := ← message.required Json.text inner
      kind := ← kind.withDefault "" Json.text inner
      code := ← code.nullable Json.anything inner }
  | _ => none

def fieldNames : List String := ["error"]

def decode : Json.Decoder Complaint := fun depth d => do
  match ← Json.slots? fieldNames depth d with
  | [error] => error.required decodeInner (depth + 1)
  | _ => none

end Complaint

end MeetingInsights.Chat
