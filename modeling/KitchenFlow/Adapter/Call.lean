import KitchenFlow.Adapter.Error
import KitchenFlow.Config.Typed

/-!
# Calls to collaborators

A call is everything that is said to a collaborator: whom to write to and what, which address to
call with which body. How a collaborator behaves is a function of the calls it has had before and of
the call at hand; it may take its time, never answer, or break down.
-/

namespace KitchenFlow

/-- The collaborators of a run. -/
inductive Service where
  | notifications
  | webhooks
  | completion
  | partners
deriving DecidableEq, Repr, Inhabited

/-- A call to a collaborator. -/
inductive Call where
  | email (recipient subject body : String)
  | sms (recipient body : String)
  | webhook (url method : String) (body : Json)
  | completion (prompt apiKey : String)
  | partner (partner action : String) (body : Json) (apiKey : String)
deriving Repr, Inhabited

/-- The collaborator that a call goes to. -/
def Call.service : Call → Service
  | .email .. | .sms .. => .notifications
  | .webhook .. => .webhooks
  | .completion .. => .completion
  | .partner .. => .partners

/-- A call with all that is said in it. -/
def Call.toJson : Call → Json
  | .email recipient subject body =>
    .object
      [("call", .string "email"), ("to", .string recipient), ("subject", .string subject),
        ("body", .string body)]
  | .sms recipient body =>
    .object [("call", .string "sms"), ("to", .string recipient), ("body", .string body)]
  | .webhook url method body =>
    .object
      [("call", .string "webhook"), ("url", .string url), ("method", .string method),
        ("body", body)]
  | .completion prompt apiKey =>
    .object
      [("call", .string "completion"), ("prompt", .string prompt), ("api_key", .string apiKey)]
  | .partner name action body apiKey =>
    .object
      [("call", .string "partner"), ("partner", .string name), ("action", .string action),
        ("body", body), ("api_key", .string apiKey)]

/-- What a call comes to in the end. Only a completion has a text worth reading. -/
inductive Ending where
  | answer (result : Except AdapterError String)
  | silence
  | breakdown (message : String)

/-- How a collaborator behaves: after some milliseconds, the call ends in some way. -/
structure Behaviour where
  delayMs : Nat
  ending : Ending

/-- A collaborator: how it behaves, given the number of calls before and the call. -/
abbrev Responder := Nat → Call → Behaviour

/-- The collaborators at hand. -/
structure Services where
  notifications : Option Responder
  webhooks : Option Responder
  completion : Option Responder
  partners : Option Responder

/-- No collaborators. -/
def Services.none : Services := ⟨.none, .none, .none, .none⟩

/-- The collaborator for a service. -/
def Services.get? (s : Services) : Service → Option Responder
  | .notifications => s.notifications
  | .webhooks => s.webhooks
  | .completion => s.completion
  | .partners => s.partners

/-- A behaviour without delay. -/
def Behaviour.atOnce (e : Ending) : Behaviour := ⟨0, e⟩

/-! ### The notifier without a gateway -/

/-- The recipient of a notification and the channel it goes by. -/
def Call.notice? : Call → Option (String × Channel)
  | .email recipient .. => some (recipient, .email)
  | .sms recipient _ => some (recipient, .sms)
  | _ => none

/-- What a notifier that only logs answers: nothing is ever delivered. -/
def logOnly (recipient : String) (channel : Channel) : AdapterError :=
  if Text.isBlank recipient then .failed "empty recipient"
  else .missingCredential ("no " ++ channel.name ++ " gateway configured; message logged only")

/-- The notifier that only logs. -/
def logNotifier : Responder := fun _ call =>
  match call.notice? with
  | some (recipient, channel) => .atOnce (.answer (.error (logOnly recipient channel)))
  | none => .atOnce (.answer (.ok ""))

/-! ### The addresses of partners -/

/-- The base addresses of the partners. -/
def partnerBases : List (String × String) :=
  [("instacart", "https://connect.instacart.com/v2/pantry"),
    ("toast", "https://ws-api.toasttab.com/pantry/v1"),
    ("square", "https://connect.squareup.com/v2/pantry")]

/-- The address for an action of a partner, if the partner is known. -/
def partnerEndpoint? (bases : List (String × String)) (partner action : String) : Option String :=
  (bases.lookup partner).map fun base =>
    Text.dropTrailing '/' base ++ "/" ++ action

end KitchenFlow
