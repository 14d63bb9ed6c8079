import KitchenFlow.Payload.Template
import KitchenFlow.Run.Engine

/-!
# Actions

The three kinds of action, how each is described, and the call by which each is carried out. An
action whose collaborator or secret is missing is not carried out at all.
-/

namespace KitchenFlow

/-- An action with its configuration. -/
inductive Action where
  | notify (c : SendNotificationConfig)
  | deliver (c : WebhookDeliveryConfig)
  | integrate (c : PartnerIntegrationConfig)
deriving DecidableEq, Repr, Inhabited

/-- What an attempt to carry out an action comes to. -/
inductive Attempt where
  | sent
  | unavailable (reason : String)
  | failed (e : AdapterError)
  | broke (message : String)
deriving DecidableEq, Repr, Inhabited

namespace Action

/-- An action in a few words. -/
def describe (p : Payload) : Action → String
  | .notify c => c.channel.name ++ " notification to " ++ p.render c.recipient
  | .deliver c => "webhook " ++ c.effectiveMethod ++ " " ++ c.targetUrl
  | .integrate c => c.partner ++ " " ++ c.action ++ " request"

/-- The collaborator an action needs. -/
def service : Action → Service
  | .notify _ => .notifications
  | .deliver _ => .webhooks
  | .integrate _ => .partners

/-- The credential an action needs. -/
def credential? : Action → Option String
  | .notify c => c.credentialId
  | .deliver _ => none
  | .integrate c => some c.credentialId

/-- What is said when the collaborator is missing. -/
def missing : Action → String
  | .notify _ => "no notification adapter configured"
  | .deliver _ => "no webhook adapter configured"
  | .integrate _ => "no partner adapter configured"

/-- The body of a webhook. -/
def webhookBody (p : Payload) (c : WebhookDeliveryConfig) : Json :=
  if c.includePayload.getD true then p.toJson
  else
    .object
      [("trigger_event", p.triggerEvent.toJson), ("item_id", .string p.item.id),
        ("timestamp", p.timestamp.toJson)]

/-- The body of a request to a partner. -/
def partnerBody (p : Payload) (c : PartnerIntegrationConfig) : Json :=
  .object
    [("action", .string c.action), ("item", p.item.toJson),
      ("user_id", .ofOption .string p.userId), ("related_data", .object p.relatedData)]

/-- The subject of an e-mail. -/
def subject (p : Payload) (c : SendNotificationConfig) : String :=
  match c.subject with
  | some s => p.render s
  | none => "Pantry alert: " ++ p.item.name

/-- The call that carries out an action, with the secret it needs. -/
def call (p : Payload) (secret : String) : Action → Call
  | .notify c =>
    match c.channel with
    | .email => .email (p.render c.recipient) (subject p c) (p.render c.message)
    | .sms => .sms (p.render c.recipient) (p.render c.message)
  | .deliver c => .webhook c.targetUrl c.effectiveMethod (webhookBody p c)
  | .integrate c => .partner c.partner c.action (partnerBody p c) secret

/-- The secret of an action; an action without credential needs none. -/
def secret (e : Engine) (a : Action) (w : World) : Except AdapterError String × World :=
  match a.credential? with
  | some id => e.resolveSecret id w
  | none => (.ok "", w)

/-- What the answer to a call means. A missing credential is no failure. -/
def settle : Except AdapterError String → Attempt
  | .ok _ => .sent
  | .error (.missingCredential reason) => .unavailable reason
  | .error e => .failed e

/-- Tries to carry out an action. -/
def attempt (e : Engine) (p : Payload) (a : Action) (w : World) : Attempt × World :=
  match e.services.get? a.service with
  | none => (.unavailable a.missing, w)
  | some responder =>
    match a.secret e w with
    | (.error err, w) => (.unavailable err.message, w)
    | (.ok secret, w) =>
      match w.perform e.timeout responder (a.call p secret) with
      | (.answered r, w) => (settle r, w)
      | (.broke message, w) => (.broke message, w)

@[simp] theorem secret_ledger (e : Engine) (a : Action) (w : World) :
    (a.secret e w).2.ledger = w.ledger := by
  unfold secret
  split <;> simp

@[simp] theorem secret_calls (e : Engine) (a : Action) (w : World) :
    (a.secret e w).2.calls = w.calls := by
  unfold secret
  split <;> simp

/-- The call of an action goes to its collaborator. -/
@[simp] theorem service_call (a : Action) (p : Payload) (s : String) :
    (a.call p s).service = a.service := by
  cases a with
  | notify c => simp only [call, service]; split <;> rfl
  | deliver c => rfl
  | integrate c => rfl

end Action
end KitchenFlow
