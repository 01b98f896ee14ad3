import MeetingInsights.Chat.Completion
import MeetingInsights.Chat.Rejection
import MeetingInsights.Chat.Url
import MeetingInsights.Config.Basic
import MeetingInsights.Number.Shortest
import MeetingInsights.Prompt
import MeetingInsights.Wire.Envelope

/-! # Asking a chat endpoint

The request that puts a meeting before a language model, and what becomes of the reply. A failure of
whatever kind is a failed extraction that keeps its cause.
-/

namespace MeetingInsights.Chat

/-- Where a model is asked, and how. -/
structure Endpoint where
  baseUrl : String
  apiKey : Option String
  model : String
  temperature : Number.Binary
  timeoutSecs : Nat
deriving DecidableEq, Repr

namespace Endpoint

/-- The endpoint of a configuration; an empty key is none. -/
def ofConfig (c : Config.Ai) : Endpoint where
  baseUrl := c.baseUrl
  apiKey := if c.apiKey.isEmpty then none else some c.apiKey
  model := c.model
  temperature := c.temperature
  timeoutSecs := c.timeoutSecs

/-- The endpoint that is asked unless another is set. -/
def standard : Endpoint := ofConfig .standard

def withoutEndSlashes (s : String) : String :=
  String.ofList (s.toList.reverse.dropWhile (· == '/')).reverse

def address (e : Endpoint) : String := withoutEndSlashes e.baseUrl ++ "/chat/completions"

end Endpoint

structure Request where
  url : Url
  authorization : Option String
  body : Json
deriving Inhabited

namespace Request

def isHeaderText (s : String) : Bool :=
  s.toList.all fun c => (0x20 ≤ c.toNat && c.toNat != 0x7F) || c == '\t'

/-- The number that a temperature of four bytes is written as. -/
def temperatureJson : Number.Binary → Json
  | .finite negative 0 _ => .float (Number.double.ofDecimal ⟨negative, 0, 0⟩)
  | .finite negative m e =>
    let (digits, exponent) := Number.single.shortest m e
    .float (Number.double.ofDecimal ⟨negative, digits, exponent⟩)
  | _ => .null

def bodyOf (e : Endpoint) (question : String) : Json :=
  .obj [("model", .str e.model),
    ("messages", .arr [(Message.system Prompt.system).toJson, (Message.user question).toJson]),
    ("temperature", temperatureJson e.temperature),
    ("response_format", .obj [("type", .str "json_object")])]

def failure (detail : String) : Error := .extraction ("request failed: " ++ detail)

def notBuilt : Error := failure "builder error"

def notBuiltFor (u : Url) : Error := failure ("builder error for url (" ++ u.toText ++ ")")

def notSentTo (u : Url) : Error := failure ("error sending request for url (" ++ u.toText ++ ")")

def build (e : Endpoint) (question : String) : Except Error Request :=
  match Url.parse? e.address with
  | none => .error notBuilt
  | some url =>
    let authorization := e.apiKey.map fun key => "Bearer " ++ key
    if !url.hasHost then .error (notBuiltFor url)
    else if authorization.any fun a => !isHeaderText a then .error notBuilt
    else if !url.isWeb then .error (notBuiltFor url)
    else .ok ⟨url, authorization, bodyOf e question⟩

end Request

inductive Reply where
  /-- The endpoint cannot be reached, or closes the connection without an answer. -/
  | nothing
  /-- An answer with its status and its text. -/
  | answer (status : Nat) (body : String)
deriving DecidableEq, Repr, Inhabited

namespace Reply

def isSuccess (status : Nat) : Bool := 200 ≤ status && status ≤ 299

/-- The kind of complaint and its message; a body that is no complaint is the message itself. -/
def complaintOf (body : String) : String × String :=
  match Json.decode? Complaint.decode body with
  | some c => (c.kind, c.message)
  | none => ("", body)

def rejection (status : Nat) (body : String) : Error :=
  let (kind, message) := complaintOf body
  (Rejection.ofAnswer status kind).toError status message

def undecodable : Error := .extraction "failed to decode response: error decoding response body"

def noChoices : Error := .extraction "no response from LLM"

def content (url : Url) : Reply → Except Error String
  | .nothing => .error (Request.notSentTo url)
  | .answer status body =>
    if isSuccess status then
      match Json.decode? Completion.decode body with
      | none => .error undecodable
      | some c =>
        match c.firstContent? with
        | some text => .ok text
        | none => .error noChoices
    else .error (rejection status body)

def findings (url : Url) (r : Reply) : Except Error (List Finding) := do
  Envelope.read (← r.content url)

end Reply

/-- Puts a meeting before a model, where `send` stands for the network. -/
def extract (e : Endpoint) (send : Request → Reply) (m : Meeting) (roster : List RosterEntry) :
    Except Error (List Finding) := do
  let request ← Request.build e (Prompt.user m roster)
  (send request).findings request.url

end MeetingInsights.Chat
