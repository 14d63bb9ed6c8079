import KitchenFlow.Adapter.Call
import KitchenFlow.Config.Settings
import KitchenFlow.Json.Decoder
import KitchenFlow.Text.Blank
import KitchenFlow.Web.Request

/-!
# Collaborators on the web

Webhooks, partners and completions are reached over a network. A webhook gets the payload by the
method of its node, unless the method is one that sends nothing. A partner gets it at the address of
the action. A completion service gets a conversation with the prompt and answers with a text.
-/

namespace KitchenFlow

/-- The failure of a request, and what it was for. -/
def AdapterError.ofFault (what : String) (f : WebFault) : AdapterError :=
  .failed (what ++ ": " ++ f.message)

/-- Takes an answer for what its status says. -/
def WebResponse.accept (r : WebResponse) : Except AdapterError Unit :=
  if r.isSuccess then .ok () else .error (.failed ("HTTP " ++ toString r.status))

/-! ### Webhooks -/

namespace Webhook

/-- The name by which webhooks are called. -/
def userAgent : String := "pantry-flow-engine"

/-- The request for a webhook. A `GET` sends no body. -/
def request (url method : String) (body : Json) : Except WebFault WebRequest := do
  let r ← WebRequest.plain method url
  let r := if method = "GET" then r else r.withJson body
  .ok { r with userAgent := some userAgent }

/-- Calls a webhook. -/
def call (net : Network) (url method : String) (body : Json) : Except AdapterError Unit := do
  match WebRequest.method? method with
  | none => .error (.failed "invalid method: invalid HTTP method")
  | some method =>
    let answer ← (do net.send (← request url method body)).mapError
      (.ofFault "webhook request failed")
    answer.accept

end Webhook

/-! ### Partners -/

namespace Partner

/-- The request for an action of a partner. -/
def request (url : String) (body : Json) (apiKey : String) : Except WebFault WebRequest := do
  let r ← (← WebRequest.plain "POST" url).withKey apiKey
  .ok (r.withJson body)

/-- Asks a partner for an action. -/
def push (net : Network) (bases : List (String × String)) (partner action : String) (body : Json)
    (apiKey : String) : Except AdapterError Unit := do
  match partnerEndpoint? bases partner action with
  | none => .error (.failed ("no endpoint for partner " ++ partner))
  | some url =>
    let answer ← (do net.send (← request url body apiKey)).mapError
      (.ofFault "partner request failed")
    answer.accept

end Partner

/-! ### Completions -/

/-- A service for completions. -/
structure CompletionService where
  baseUrl : String
  model : String
deriving DecidableEq, Repr

namespace CompletionService

/-- The service unless said otherwise. -/
def default : CompletionService := ⟨Settings.default.aiBaseUrl, Settings.default.aiModel⟩

/-- What the service is told about its task. -/
def task : String :=
  "You are a restaurant kitchen assistant. Suggest one short, practical recipe that uses the given "
    ++ "ingredient before it spoils. Reply with the recipe only."

/-- How freely the service may answer. -/
def temperature : Binary64 := Decimal.toBinary64 ⟨false, 7, -1⟩

/-- The most tokens an answer may have. -/
def maxTokens : Nat := 400

/-- A line of a conversation. -/
def line (role content : String) : Json :=
  .object [("role", .string role), ("content", .string content)]

/-- The conversation for a prompt. -/
def conversation (s : CompletionService) (prompt : String) : Json :=
  .object
    [("model", .string s.model), ("messages", .array [line "system" task, line "user" prompt]),
      ("temperature", .ofBinary64 temperature), ("max_tokens", .ofNat maxTokens)]

/-- The address of the service. -/
def address (s : CompletionService) : String :=
  Text.dropTrailing '/' s.baseUrl ++ "/chat/completions"

/-- The request for a prompt. -/
def request (s : CompletionService) (prompt apiKey : String) : Except WebFault WebRequest := do
  let r ← (← WebRequest.plain "POST" s.address).withKey apiKey
  .ok (r.withJson (s.conversation prompt))

/-- The text of an answer: what the first choice says, if it says anything. -/
def text? (answer : Json) : Option String := do
  let .array (choice :: _) ← answer.get? "choices" | none
  let .string content ← (← choice.get? "message").get? "content" | none
  some (Text.trim content) |>.filter (· ≠ "")

/-- What an answer says that is no success. -/
def complaint (answer : Json) : String :=
  match (answer.get? "error").bind (·.get? "message") with
  | some (.string message) => message
  | _ => "no error message"

/-- Reads an answer. -/
def read (answer : WebResponse) : Except AdapterError String := do
  let body ← ((Decoder.ofText Decoder.json answer.body).mapError fun _ => .unreadable).mapError
    (.ofFault "invalid completion response")
  if answer.isSuccess then
    match text? body with
    | some text => .ok text
    | none => .error (.failed "completion had no content")
  else .error (.failed ("HTTP " ++ toString answer.status ++ ": " ++ complaint body))

/-- Completes a prompt. -/
def complete (s : CompletionService) (net : Network) (prompt apiKey : String) :
    Except AdapterError String := do
  let answer ← (do net.send (← s.request prompt apiKey)).mapError
    (.ofFault "completion request failed")
  read answer

end CompletionService

/-! ### All together -/

namespace Services

/-- A collaborator on the web: how it takes a call. -/
def respond (bases : List (String × String)) (s : CompletionService) (net : Network) :
    Responder := fun _ call =>
  .atOnce <| .answer <|
    match call with
    | .webhook url method body => (Webhook.call net url method body).map fun () => ""
    | .partner partner action body apiKey =>
      (Partner.push net bases partner action body apiKey).map fun () => ""
    | .completion prompt apiKey => s.complete net prompt apiKey
    | .email .. | .sms .. => .ok ""

/-- The usual collaborators: notifications are only logged, all others are on the web. -/
def usual (settings : Settings) (net : Network) : Services :=
  let web := respond partnerBases ⟨settings.aiBaseUrl, settings.aiModel⟩ net
  ⟨some logNotifier, some web, some web, some web⟩

end Services
end KitchenFlow
