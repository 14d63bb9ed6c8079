/-!
# Kinds of nodes

A flow is made of nodes of eight kinds. What a kind may do in a flow is its *capability*: triggers
start a run, conditions choose a branch, enrichments add data to the payload, and actions reach out
to the world. Each of the small types of this module has a name on the wire, and `ofName?` reads
exactly the names that `name` gives.
-/

namespace KitchenFlow

/-- The inventory event that starts a run. -/
inductive TriggerEvent where
  | expiration
  | inventoryStatus
deriving DecidableEq, Repr, Inhabited

namespace TriggerEvent

def all : List TriggerEvent := [.expiration, .inventoryStatus]

def name : TriggerEvent → String
  | .expiration => "expiration"
  | .inventoryStatus => "inventory_status"

def ofName? (s : String) : Option TriggerEvent := all.find? (·.name == s)

@[simp] theorem ofName?_name (e : TriggerEvent) : ofName? e.name = some e := by
  cases e <;> rfl

/-- Reads the name of an event; the error says which name is none. -/
def parse (s : String) : Except String TriggerEvent :=
  match ofName? s with
  | some e => .ok e
  | none => .error ("unknown trigger event: " ++ s)

end TriggerEvent

/-- Whether a run may reach real collaborators. -/
inductive RunMode where
  | test
  | live
deriving DecidableEq, Repr, Inhabited

namespace RunMode

def all : List RunMode := [.test, .live]

def name : RunMode → String
  | .test => "test"
  | .live => "live"

def ofName? (s : String) : Option RunMode := all.find? (·.name == s)

@[simp] theorem ofName?_name (m : RunMode) : ofName? m.name = some m := by
  cases m <;> rfl

end RunMode

/-- What a node may do in a flow. -/
inductive Capability where
  | trigger
  | condition
  | enrichment
  | action
deriving DecidableEq, Repr, Inhabited

namespace Capability

def all : List Capability := [.trigger, .condition, .enrichment, .action]

def name : Capability → String
  | .trigger => "trigger"
  | .condition => "condition"
  | .enrichment => "enrichment"
  | .action => "action"

def ofName? (s : String) : Option Capability := all.find? (·.name == s)

@[simp] theorem ofName?_name (c : Capability) : ofName? c.name = some c := by
  cases c <;> rfl

/-- How many edges may leave a node, if that is limited. The edges of a condition are counted by
branch instead. -/
def maxOutgoing : Capability → Option Nat
  | .enrichment | .action => some 1
  | .trigger | .condition => none

end Capability

/-- The kinds of nodes. -/
inductive NodeKind where
  | expirationTrigger
  | inventoryStatusTrigger
  | conditionalBranch
  | updateData
  | generateRecipe
  | sendNotification
  | webhookDelivery
  | partnerIntegration
deriving DecidableEq, Repr, Inhabited

namespace NodeKind

/-- All kinds, in the order in which they are listed for users. -/
def all : List NodeKind :=
  [.expirationTrigger, .inventoryStatusTrigger, .conditionalBranch, .updateData, .generateRecipe,
    .sendNotification, .webhookDelivery, .partnerIntegration]

/-- The name of a kind in a flow definition. -/
def name : NodeKind → String
  | .expirationTrigger => "ExpirationTrigger"
  | .inventoryStatusTrigger => "InventoryStatusTrigger"
  | .conditionalBranch => "ConditionalBranch"
  | .updateData => "UpdateData"
  | .generateRecipe => "GenerateRecipe"
  | .sendNotification => "SendNotification"
  | .webhookDelivery => "WebhookDelivery"
  | .partnerIntegration => "PartnerIntegration"

def ofName? (s : String) : Option NodeKind := all.find? (·.name == s)

@[simp] theorem ofName?_name (k : NodeKind) : ofName? k.name = some k := by
  cases k <;> rfl

theorem mem_all (k : NodeKind) : k ∈ all := by cases k <;> decide

/-- A name that is read as a kind is the name of that kind. -/
theorem name_of_ofName? {s : String} {k : NodeKind} (h : ofName? s = some k) : k.name = s := by
  have := List.find?_some h
  simpa using this

def capability : NodeKind → Capability
  | .expirationTrigger | .inventoryStatusTrigger => .trigger
  | .conditionalBranch => .condition
  | .updateData | .generateRecipe => .enrichment
  | .sendNotification | .webhookDelivery | .partnerIntegration => .action

/-- The event that a kind of trigger responds to. -/
def triggerEvent? : NodeKind → Option TriggerEvent
  | .expirationTrigger => some .expiration
  | .inventoryStatusTrigger => some .inventoryStatus
  | _ => none

/-- Exactly the triggers respond to an event. -/
theorem isSome_triggerEvent?_iff (k : NodeKind) :
    k.triggerEvent?.isSome ↔ k.capability = .trigger := by
  cases k <;> decide

end NodeKind
end KitchenFlow
