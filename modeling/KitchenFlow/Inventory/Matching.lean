import KitchenFlow.Config.Typed
import KitchenFlow.Payload.Basic

/-!
# Which items concern a trigger

A trigger matches items that are about to expire or that have a stock status, within a category if
one is given. Before triggers are asked at all, an inventory is narrowed down to the items that are
near their expiry or not plainly in stock.
-/

namespace KitchenFlow

/-- Whether an item belongs to a category; a blank one and `all` take every item. -/
def InventoryItem.inCategory (item : InventoryItem) (category : Option String) : Bool :=
  match category with
  | none => true
  | some c =>
    let c := Text.trim c
    c == "" || Text.sameLetters c "all"
      || item.category.any fun own => Text.sameLetters c (Text.trim own)

/-- Whether an item has a stock status. -/
def InventoryItem.hasStatus (item : InventoryItem) (status : String) : Bool :=
  item.status.any fun own => Text.sameLetters (Text.trim own) (Text.trim status)

namespace ExpirationTriggerConfig

/-- Whether an item expires within the days of a trigger. -/
def isMatch (c : ExpirationTriggerConfig) (item : InventoryItem) : Bool :=
  (item.remainingDays.any fun d => (Binary64.ofInt d).ble c.timeOffset)
    && item.inCategory c.filterCategory

end ExpirationTriggerConfig

namespace InventoryStatusTriggerConfig

/-- Whether an item has the status of a trigger, and no more of it than its threshold. -/
def isMatch (c : InventoryStatusTriggerConfig) (item : InventoryItem) : Bool :=
  item.hasStatus c.status
    && (c.threshold.all fun limit => item.quantity.any fun q => q.ble limit)
    && item.inCategory c.filterCategory

end InventoryStatusTriggerConfig

/-- The days before expiry from which an item counts as near to it, unless said otherwise. -/
def defaultHorizon : Int := 7

/-- The status of an item of which nothing is to be feared. -/
def inStock : String := "in_stock"

/-- Whether an item is worth a look: it expires soon, or its status is not plainly in stock. -/
def InventoryItem.isNearExpiry (item : InventoryItem) (horizon : Int) : Bool :=
  (item.remainingDays.any (· ≤ horizon))
    || item.status.any fun s => !Text.sameLetters (Text.trim s) inStock

end KitchenFlow
