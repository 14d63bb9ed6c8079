import KitchenFlow.Config.Operator
import KitchenFlow.Flow.Kind

/-!
# Configuration schemas

What the configuration of each kind of node consists of: for every field its key, the widget that
edits it (which also decides how it is checked), whether it has to be there, and for a choice the
options. A registry says which kinds are in use, and what is registered for each of them; any fields
can be registered for a kind, and those that are built in are what its typed configuration is made
for.
-/

namespace KitchenFlow

/-- The widget of a field. -/
inductive FieldType where
  | text
  | number
  | boolean
  | dropdown
  | textarea
  | variablePicker
deriving DecidableEq, Repr, Inhabited

/-- The name of a widget. -/
def FieldType.name : FieldType → String
  | .text => "text"
  | .number => "number"
  | .boolean => "boolean"
  | .dropdown => "dropdown"
  | .textarea => "textarea"
  | .variablePicker => "variable-picker"

/-- A field of a configuration. -/
structure FieldSpec where
  key : String
  type : FieldType
  required : Bool
  options : List String
deriving DecidableEq, Repr, Inhabited

namespace FieldSpec

def mandatory (key : String) (type : FieldType) (options : List String := []) : FieldSpec :=
  ⟨key, type, true, options⟩

def optional (key : String) (type : FieldType) (options : List String := []) : FieldSpec :=
  ⟨key, type, false, options⟩

end FieldSpec

namespace Schema

/-- The stock statuses that a trigger can wait for. -/
def statuses : List String := ["low_stock", "out_of_stock", "expired", "in_stock"]

/-- The ways to notify someone. -/
def channels : List String := ["email", "sms"]

/-- The methods of a webhook. -/
def methods : List String := ["POST", "PUT", "PATCH", "GET"]

/-- The partners that can be integrated. -/
def partners : List String := ["instacart", "toast", "square"]

/-- What a partner can be asked to do. -/
def partnerActions : List String := ["reorder", "sync_inventory", "flag_item"]

end Schema

namespace NodeKind

/-- The fields of the configuration of a kind, in the order in which they are checked. -/
def schema : NodeKind → List FieldSpec
  | .expirationTrigger =>
    [.mandatory "timeOffset" .number, .optional "filterCategory" .text]
  | .inventoryStatusTrigger =>
    [.mandatory "status" .dropdown Schema.statuses, .optional "filterCategory" .text,
      .optional "threshold" .number]
  | .conditionalBranch =>
    [.mandatory "checkField" .variablePicker,
      .mandatory "operator" .dropdown (Operator.all.map Operator.sign),
      .mandatory "checkValue" .text]
  | .updateData =>
    [.mandatory "targetField" .variablePicker, .mandatory "value" .textarea]
  | .generateRecipe =>
    [.optional "prompt" .textarea, .optional "servings" .number, .optional "credentialId" .text]
  | .sendNotification =>
    [.mandatory "channel" .dropdown Schema.channels, .mandatory "recipient" .text,
      .optional "subject" .text, .mandatory "message" .textarea, .optional "credentialId" .text]
  | .webhookDelivery =>
    [.mandatory "targetUrl" .text, .optional "method" .dropdown Schema.methods,
      .optional "includePayload" .boolean]
  | .partnerIntegration =>
    [.mandatory "partner" .dropdown Schema.partners,
      .mandatory "action" .dropdown Schema.partnerActions, .mandatory "credentialId" .text]

/-- What a kind does, for users. -/
def description : NodeKind → String
  | .expirationTrigger => "Fires when an item is within timeOffset days of expiring"
  | .inventoryStatusTrigger => "Fires when an item reaches a stock status"
  | .conditionalBranch => "Routes to the true or false branch by comparing a payload field"
  | .updateData => "Writes a value into related_data"
  | .generateRecipe => "Asks the AI provider for a recipe that uses the item"
  | .sendNotification => "Sends an email or SMS"
  | .webhookDelivery => "Delivers the payload to an HTTP endpoint"
  | .partnerIntegration => "Pushes the item to a partner integration"

/-- No kind has two fields with one key. -/
theorem schema_keys_nodup (k : NodeKind) : (k.schema.map FieldSpec.key).Nodup := by
  cases k <;> decide

end NodeKind

/-- What is registered for a kind: what an editor is told about it, and the fields that its
configuration is checked against. -/
structure NodeMetadata where
  kind : NodeKind
  description : String
  capability : Capability
  fields : List FieldSpec
deriving DecidableEq, Repr, Inhabited

/-- A kind as it is built in. -/
def NodeMetadata.builtin (k : NodeKind) : NodeMetadata :=
  ⟨k, k.description, k.capability, k.schema⟩

/-- Kinds stand for what is built in for them. -/
instance : Coe (List NodeKind) (List NodeMetadata) := ⟨List.map .builtin⟩

/-- The kinds of nodes in use, with what is registered for each. Of several entries for one kind the
first counts, as it is the latest. -/
structure Registry where
  entries : List NodeMetadata
deriving Repr, Inhabited

namespace Registry

/-- The registry of no kinds. -/
def empty : Registry := ⟨[]⟩

/-- Registers a kind, in place of what was registered for it before. -/
def register (r : Registry) (m : NodeMetadata) : Registry := ⟨m :: r.entries⟩

/-- The registry of all kinds as they are built in. -/
def builtin : Registry := NodeKind.all.foldl (fun r k => r.register (.builtin k)) empty

/-- What is registered for a kind. -/
def metadata? (r : Registry) (k : NodeKind) : Option NodeMetadata :=
  r.entries.find? (·.kind == k)

/-- The fields that are registered for a kind. -/
def schema? (r : Registry) (k : NodeKind) : Option (List FieldSpec) :=
  (r.metadata? k).map (·.fields)

/-- Whether a kind is in use. -/
def has (r : Registry) (k : NodeKind) : Bool := (r.metadata? k).isSome

/-- The kind with a name, if it is in use. -/
def resolve? (r : Registry) (name : String) : Option NodeKind :=
  (NodeKind.ofName? name).filter r.has

/-- The kinds in use, in the order of all kinds. -/
def list (r : Registry) : List NodeKind := NodeKind.all.filter r.has

theorem has_iff {r : Registry} {k : NodeKind} : r.has k = true ↔ ∃ m ∈ r.entries, m.kind = k := by
  simp [has, metadata?]

theorem isSome_schema? (r : Registry) (k : NodeKind) : (r.schema? k).isSome = r.has k := by
  simp [schema?, has]

@[simp] theorem schema?_builtin (k : NodeKind) : builtin.schema? k = some k.schema := by
  cases k <;> rfl

@[simp] theorem has_builtin (k : NodeKind) : builtin.has k = true := by
  simp [← isSome_schema?]

theorem mem_list {r : Registry} {k : NodeKind} : k ∈ r.list ↔ r.has k = true := by
  simp [list, NodeKind.mem_all]

end Registry
end KitchenFlow
