import KitchenFlow.Adapter.Error
import KitchenFlow.Flow.Basic
import KitchenFlow.Inventory.Matching
import KitchenFlow.Vault.Credential

/-!
# The store in memory

Flows and inventories belong to organizations; credentials do not. Putting a flow replaces the
organization's flow of the same id and moves it behind the others.
-/

namespace KitchenFlow

/-- What a tick reads: the active flows and the items near expiry of an organization. -/
structure FlowSource where
  flows : String → Except StoreError (List Flow)
  items : String → Except StoreError (List InventoryItem)

/-- A store in memory. -/
structure MemoryStore where
  /-- The flows, each with its organization. -/
  flows : List (String × Flow)
  /-- The inventories, each with its organization. -/
  inventories : List (String × List InventoryItem)
  credentials : List Credential
deriving Repr, Inhabited

namespace MemoryStore

def empty : MemoryStore := ⟨[], [], []⟩

/-- Puts a flow of an organization. -/
def putFlow (s : MemoryStore) (org : String) (f : Flow) : MemoryStore :=
  { s with flows := (s.flows.filter fun e => !(e.1 == org && e.2.id == f.id)) ++ [(org, f)] }

/-- Puts the inventory of an organization. -/
def putInventory (s : MemoryStore) (org : String) (items : List InventoryItem) : MemoryStore :=
  { s with inventories := (org, items) :: s.inventories.filter fun e => e.1 ≠ org }

/-- Puts a credential. -/
def putCredential (s : MemoryStore) (c : Credential) : MemoryStore :=
  { s with credentials := c :: s.credentials.filter fun d => d.id ≠ c.id }

/-- The active flows of an organization. -/
def activeFlows (s : MemoryStore) (org : String) : List Flow :=
  (s.flows.filter fun e => e.1 == org && e.2.isActive).map (·.2)

/-- The items of an organization that are near their expiry. -/
def itemsNearExpiry (s : MemoryStore) (org : String) : List InventoryItem :=
  ((s.inventories.lookup org).getD []).filter (·.isNearExpiry defaultHorizon)

/-- The credential with an id. -/
def credential? (s : MemoryStore) (id : String) : Option Credential :=
  s.credentials.find? (·.id == id)

/-- The store as a source of flows; it never fails. -/
def source (s : MemoryStore) : FlowSource :=
  ⟨fun org => .ok (s.activeFlows org), fun org => .ok (s.itemsNearExpiry org)⟩

end MemoryStore
end KitchenFlow
