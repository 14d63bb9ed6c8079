import KitchenFlow.Flow.Wire
import KitchenFlow.Payload.Basic

/-!
# Payloads on the wire

How items and payloads are written as JSON and read back. Every field is written, absent ones as
`null`.
-/

namespace KitchenFlow

namespace InventoryItem

def toJson (i : InventoryItem) : Json :=
  .object
    [("id", .string i.id), ("name", .string i.name), ("category", .ofOption .string i.category),
      ("location", .ofOption .string i.location), ("status", .ofOption .string i.status),
      ("remaining_days", .ofOption .ofInt i.remainingDays),
      ("quantity", .ofOption .ofBinary64 i.quantity)]

def record : Record InventoryItem :=
  InventoryItem.mk <$> .required "id" Decoder.string <*> .required "name" Decoder.string
    <*> .optional "category" Decoder.string <*> .optional "location" Decoder.string
    <*> .optional "status" Decoder.string <*> .optional "remaining_days" Decoder.int64
    <*> .optional "quantity" Decoder.binary64

def decoder : Decoder InventoryItem := record.decode "InventoryItem"

end InventoryItem

namespace Payload

def toJson (p : Payload) : Json :=
  .object
    [("trigger_event", p.triggerEvent.toJson), ("timestamp", p.timestamp.toJson),
      ("user_id", .ofOption .string p.userId), ("inventory_item", p.item.toJson),
      ("related_data", .object p.relatedData)]

def record : Record Payload :=
  Payload.mk <$> .required "trigger_event" TriggerEvent.decoder
    <*> .required "timestamp" Decoder.timestamp <*> .optional "user_id" Decoder.string
    <*> .required "inventory_item" InventoryItem.decoder
    <*> .withDefault "related_data" [] Decoder.fields

def decoder : Decoder Payload := record.decode "Payload"

end Payload
end KitchenFlow
