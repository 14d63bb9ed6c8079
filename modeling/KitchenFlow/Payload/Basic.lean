import KitchenFlow.Flow.Kind
import KitchenFlow.Json.Basic
import KitchenFlow.Time.Instant

/-!
# Payloads

A payload is what a run hands from node to node: the inventory item it is about, the event that
started it, and the data that earlier nodes have added.
-/

namespace KitchenFlow

/-- An item of an inventory. -/
structure InventoryItem where
  id : String
  name : String
  category : Option String
  location : Option String
  status : Option String
  remainingDays : Option Int
  quantity : Option Binary64
deriving DecidableEq, Repr, Inhabited

/-- The payload of a run. -/
structure Payload where
  triggerEvent : TriggerEvent
  timestamp : Instant
  userId : Option String
  item : InventoryItem
  relatedData : Fields
deriving Repr, Inhabited

namespace Payload

/-- A payload about an item, without user and related data. -/
def ofItem (event : TriggerEvent) (item : InventoryItem) (t : Instant) : Payload :=
  ⟨event, t, none, item, []⟩

/-- The same payload, for a user. -/
def withUser (p : Payload) (user : String) : Payload := { p with userId := some user }

/-- The same payload with one entry of its related data set. -/
def setRelated (p : Payload) (key : String) (value : Json) : Payload :=
  { p with relatedData := p.relatedData.insert key value }

@[simp] theorem setRelated_item (p : Payload) (key : String) (value : Json) :
    (p.setRelated key value).item = p.item := rfl

@[simp] theorem setRelated_triggerEvent (p : Payload) (key : String) (value : Json) :
    (p.setRelated key value).triggerEvent = p.triggerEvent := rfl

@[simp] theorem setRelated_timestamp (p : Payload) (key : String) (value : Json) :
    (p.setRelated key value).timestamp = p.timestamp := rfl

@[simp] theorem setRelated_userId (p : Payload) (key : String) (value : Json) :
    (p.setRelated key value).userId = p.userId := rfl

end Payload
end KitchenFlow
