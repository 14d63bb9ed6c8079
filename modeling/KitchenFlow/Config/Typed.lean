import KitchenFlow.Config.Normal
import KitchenFlow.Flow.Wire

/-!
# Typed configurations

What a node of each kind is told to do. A typed configuration is read from a raw one by bringing
that into normal form first, by the fields that are registered for the kind. The reading that
follows fails if these fields and the type of the kind disagree, which those that are built in do
not.
-/

namespace KitchenFlow

/-- How someone is notified. -/
inductive Channel where
  | email
  | sms
deriving DecidableEq, Repr, Inhabited

namespace Channel

def all : List Channel := [.email, .sms]

def name : Channel → String
  | .email => "email"
  | .sms => "sms"

def ofName? (s : String) : Option Channel := all.find? (·.name == s)

end Channel

/-- When an item is close to its expiry. -/
structure ExpirationTriggerConfig where
  timeOffset : Binary64
  filterCategory : Option String
deriving DecidableEq, Repr, Inhabited

/-- When an item has a stock status. -/
structure InventoryStatusTriggerConfig where
  status : String
  filterCategory : Option String
  threshold : Option Binary64
deriving DecidableEq, Repr, Inhabited

/-- Which field to compare with what. -/
structure ConditionalBranchConfig where
  checkField : String
  operator : Operator
  checkValue : String
deriving DecidableEq, Repr, Inhabited

/-- Which entry of the related data to set to what. -/
structure UpdateDataConfig where
  targetField : String
  value : String
deriving DecidableEq, Repr, Inhabited

/-- What recipe to ask for. -/
structure GenerateRecipeConfig where
  prompt : Option String
  servings : Option Binary64
  credentialId : Option String
deriving DecidableEq, Repr, Inhabited

/-- Whom to notify of what. -/
structure SendNotificationConfig where
  channel : Channel
  recipient : String
  subject : Option String
  message : String
  credentialId : Option String
deriving DecidableEq, Repr, Inhabited

/-- Which address to call. -/
structure WebhookDeliveryConfig where
  targetUrl : String
  method : Option String
  includePayload : Option Bool
deriving DecidableEq, Repr, Inhabited

/-- The method in use; `POST` if none is given. -/
def WebhookDeliveryConfig.effectiveMethod (c : WebhookDeliveryConfig) : String :=
  c.method.getD "POST"

/-- Which partner to ask for what. -/
structure PartnerIntegrationConfig where
  partner : String
  action : String
  credentialId : String
deriving DecidableEq, Repr, Inhabited

/-- The configuration of a node. -/
inductive NodeConfig where
  | expirationTrigger (c : ExpirationTriggerConfig)
  | inventoryStatusTrigger (c : InventoryStatusTriggerConfig)
  | conditionalBranch (c : ConditionalBranchConfig)
  | updateData (c : UpdateDataConfig)
  | generateRecipe (c : GenerateRecipeConfig)
  | sendNotification (c : SendNotificationConfig)
  | webhookDelivery (c : WebhookDeliveryConfig)
  | partnerIntegration (c : PartnerIntegrationConfig)
deriving DecidableEq, Repr, Inhabited

namespace NodeConfig

/-- The kind that a configuration is for. -/
def kind : NodeConfig → NodeKind
  | .expirationTrigger _ => .expirationTrigger
  | .inventoryStatusTrigger _ => .inventoryStatusTrigger
  | .conditionalBranch _ => .conditionalBranch
  | .updateData _ => .updateData
  | .generateRecipe _ => .generateRecipe
  | .sendNotification _ => .sendNotification
  | .webhookDelivery _ => .webhookDelivery
  | .partnerIntegration _ => .partnerIntegration

/-- Reads the sign of an operator. -/
def operatorDecoder : Decoder Operator := fun d => do
  (Operator.parse (← Decoder.string d)).mapError fun message => ⟨.other message, none⟩

/-- Reads the name of a channel. -/
def channelDecoder : Decoder Channel :=
  Decoder.variant (Channel.all.map Channel.name) Channel.ofName?

/-- Reads a configuration of a kind from its normal form. -/
def decoder : NodeKind → Decoder NodeConfig
  | .expirationTrigger =>
    Record.decode "ExpirationTriggerConfig" <|
      (fun a b => .expirationTrigger ⟨a, b⟩)
        <$> .required "timeOffset" Decoder.binary64
        <*> .optional "filterCategory" Decoder.string
  | .inventoryStatusTrigger =>
    Record.decode "InventoryStatusTriggerConfig" <|
      (fun a b c => .inventoryStatusTrigger ⟨a, b, c⟩)
        <$> .required "status" Decoder.string
        <*> .optional "filterCategory" Decoder.string
        <*> .optional "threshold" Decoder.binary64
  | .conditionalBranch =>
    Record.decode "ConditionalBranchConfig" <|
      (fun a b c => .conditionalBranch ⟨a, b, c⟩)
        <$> .required "checkField" Decoder.string
        <*> .required "operator" operatorDecoder
        <*> .required "checkValue" Decoder.string
  | .updateData =>
    Record.decode "UpdateDataConfig" <|
      (fun a b => .updateData ⟨a, b⟩)
        <$> .required "targetField" Decoder.string
        <*> .required "value" Decoder.string
  | .generateRecipe =>
    Record.decode "GenerateRecipeConfig" <|
      (fun a b c => .generateRecipe ⟨a, b, c⟩)
        <$> .optional "prompt" Decoder.string
        <*> .optional "servings" Decoder.binary64
        <*> .optional "credentialId" Decoder.string
  | .sendNotification =>
    Record.decode "SendNotificationConfig" <|
      (fun a b c d e => .sendNotification ⟨a, b, c, d, e⟩)
        <$> .required "channel" channelDecoder
        <*> .required "recipient" Decoder.string
        <*> .optional "subject" Decoder.string
        <*> .required "message" Decoder.string
        <*> .optional "credentialId" Decoder.string
  | .webhookDelivery =>
    Record.decode "WebhookDeliveryConfig" <|
      (fun a b c => .webhookDelivery ⟨a, b, c⟩)
        <$> .required "targetUrl" Decoder.string
        <*> .optional "method" Decoder.string
        <*> .optional "includePayload" Decoder.bool
  | .partnerIntegration =>
    Record.decode "PartnerIntegrationConfig" <|
      (fun a b c => .partnerIntegration ⟨a, b, c⟩)
        <$> .required "partner" Decoder.string
        <*> .required "action" Decoder.string
        <*> .required "credentialId" Decoder.string

/-- The name under which a configuration that its kind cannot read is reported. -/
def wholeConfig : String := "config"

/-- Reads the configuration of a kind from a raw one, whose fields are checked first. -/
def ofRaw [UrlReader] (kind : NodeKind) (specs : List FieldSpec) (raw : Fields) :
    Except (String × FieldFault) NodeConfig := do
  let fields ← Config.normalise raw specs
  match Decoder.ofJson (decoder kind) (.object fields) with
  | .ok config => .ok config
  | .error e => .error (wholeConfig, .untyped e)

end NodeConfig

/-- Checks the configuration of a node whose kind is known, by the fields that are registered for
that kind. -/
def Registry.configure [UrlReader] (r : Registry) (nodeId : String) (kind : NodeKind)
    (raw : Fields) : Except FlowError NodeConfig :=
  match r.schema? kind with
  | none => .error (.unknownKind nodeId kind.name)
  | some specs =>
    (NodeConfig.ofRaw kind specs raw).mapError fun (field, fault) => .config ⟨nodeId, field, fault⟩

/-- Finds the kind of a node by its name. -/
def Registry.resolve (r : Registry) (nodeId name : String) : Except FlowError NodeKind :=
  match r.resolve? name with
  | some kind => .ok kind
  | none => .error (.unknownKind nodeId name)

end KitchenFlow
