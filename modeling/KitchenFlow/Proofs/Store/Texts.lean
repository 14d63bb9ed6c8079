import KitchenFlow.Proofs.Flow.Wire
import KitchenFlow.Payload.Wire
import KitchenFlow.Vault.Credential

/-!
# The texts of inventories and credentials

Items and credentials are read back from the texts of their lists if reading gives back the numbers
in them. What is to be asked of a flow for that is said where flows are read back.

    InventoryItem.ofText_list   an inventory is read back from its text
    Credential.ofText_list      credentials are read back from their text
-/

namespace KitchenFlow

open Decoder (Reads)

/-! ## Items -/

/-- The days are a number of 64 bits, and the quantity is read back from its text. -/
structure InventoryItem.Legible (i : InventoryItem) : Prop where
  remainingDays : ∀ n ∈ i.remainingDays, -2 ^ 63 ≤ n ∧ n < 2 ^ 63
  quantity : ∀ x ∈ i.quantity, (JsonNumber.float x).reread?.map (·.toBinary64) = some x

/-- A quantity is read back as a number that comes to it. -/
theorem Json.exists_reread_ofBinary64 {o : Option Binary64} (levels : Nat)
    (h : ∀ x ∈ o, (JsonNumber.float x).reread?.map (·.toBinary64) = some x) :
    ∃ v, (ofOption ofBinary64 o).reread? levels = some v ∧
      Reads (Decoder.optional Decoder.binary64) v o := by
  cases o with
  | none => exact ⟨.null, rfl, Decoder.reads_none _⟩
  | some x =>
    obtain ⟨m, hm, hx⟩ := Option.map_eq_some_iff.1 (h x rfl)
    have hfinite : x.isFinite = true := Document.isFinite_of_reread? hm
    refine ⟨.number m, ?_, (Decoder.reads_binary64 hx).some rfl⟩
    rw [ofOption, ofBinary64, if_pos hfinite, reread?, hm]
    rfl

theorem Json.reread?_ofOption_int {o : Option Int} (levels : Nat)
    (h : ∀ n ∈ o, -2 ^ 63 ≤ n ∧ n < 2 ^ 63) :
    (ofOption ofInt o).reread? levels = some (ofOption ofInt o) := by
  cases o with
  | none => rfl
  | some n =>
    obtain ⟨hlow, hhigh⟩ := h n rfl
    rw [ofOption, ofInt, reread?, JsonNumber.reread?_int hlow (by omega)]
    rfl

namespace InventoryItem

/-- The fields of an item, whatever its quantity is written as. -/
def fieldsOf (i : InventoryItem) (quantity : Json) : Fields :=
  [("id", .string i.id), ("name", .string i.name), ("category", .ofOption .string i.category),
    ("location", .ofOption .string i.location), ("status", .ofOption .string i.status),
    ("remaining_days", .ofOption .ofInt i.remainingDays), ("quantity", quantity)]

theorem takes_fieldsOf {i : InventoryItem} {quantity : Json}
    (hdays : ∀ n ∈ i.remainingDays, -2 ^ 63 ≤ n ∧ n < 2 ^ 63)
    (hquantity : Reads (Decoder.optional Decoder.binary64) quantity i.quantity) :
    record.Takes (i.fieldsOf quantity) i := by
  have hdays : Reads (Decoder.optional Decoder.int64) (.ofOption .ofInt i.remainingDays)
      i.remainingDays :=
    Decoder.reads_ofOption fun n hn => ⟨Decoder.reads_int64 (hdays n hn).1 (hdays n hn).2, rfl⟩
  exact (((((((Record.takes_required rfl (Decoder.reads_string i.id)).map InventoryItem.mk).seq
    (Record.takes_required rfl (Decoder.reads_string i.name))).seq
    (Record.takes_withDefault _ rfl (Decoder.reads_ofOption_string i.category))).seq
    (Record.takes_withDefault _ rfl (Decoder.reads_ofOption_string i.location))).seq
    (Record.takes_withDefault _ rfl (Decoder.reads_ofOption_string i.status))).seq
    (Record.takes_withDefault _ rfl hdays)).seq (Record.takes_withDefault _ rfl hquantity)

theorem fieldsOf_names (i : InventoryItem) (quantity : Json) :
    (i.fieldsOf quantity).map Prod.fst = record.names := rfl

theorem reads_fieldsOf {i : InventoryItem} {quantity : Json}
    (hdays : ∀ n ∈ i.remainingDays, -2 ^ 63 ≤ n ∧ n < 2 ^ 63)
    (hquantity : Reads (Decoder.optional Decoder.binary64) quantity i.quantity) :
    Reads decoder (.object (i.fieldsOf quantity)) i :=
  (takes_fieldsOf hdays hquantity).reads_object "InventoryItem" (by simp [fieldsOf]) fun e he =>
    fieldsOf_names i quantity ▸ List.mem_map_of_mem he

theorem exists_reread {i : InventoryItem} (h : i.Legible) :
    ∃ v, i.toJson.reread? 126 = some v ∧ Reads decoder v i := by
  obtain ⟨quantity, hreread, hquantity⟩ := Json.exists_reread_ofBinary64 125 h.quantity
  refine ⟨_, ?_, reads_fieldsOf h.remainingDays hquantity⟩
  simp [toJson, fieldsOf, Json.reread?, Json.rereadFields?, Json.reread?_ofOption_string,
    Json.reread?_ofOption_int 125 h.remainingDays, hreread]

/-- An inventory is read back from its text if its items are legible. -/
theorem ofText_list {items : List InventoryItem} (h : ∀ i ∈ items, i.Legible) :
    Decoder.ofText (.list decoder) (Json.array (items.map (·.toJson))).pretty = .ok items :=
  Decoder.ofText_list (List.forall₂_same.2 fun i hi => exists_reread (h i hi))

end InventoryItem

/-! ## Credentials -/

/-- The metadata are in normal form and read back from their text. They stand two levels deep in a
list of credentials. -/
structure Credential.Legible (c : Credential) : Prop where
  normal : (Json.object c.metadata).Normal
  metadata : (Json.object c.metadata).reread? 125 = some (.object c.metadata)

namespace Credential

theorem reads_toJson {c : Credential} (h : (Json.object c.metadata).Normal) :
    Reads decoder c.toJson c := by
  have hid := Decoder.reads_string c.id
  have hkind : Reads CredentialKind.decoder (.string c.kind.name) c.kind :=
    Decoder.reads_variant c.kind.ofName?_name
  have hsecret := Decoder.reads_string c.secret
  have hmetadata := Decoder.reads_fields h
  refine Record.reads_decode "Credential" ?_ ?_ ?_
  · simp
  · simp only [List.forall_mem_cons, List.not_mem_nil, false_implies, implies_true, and_true]
    exact ⟨Record.accepts_of_reads rfl hid, Record.accepts_of_reads rfl hkind,
      Record.accepts_of_reads rfl hsecret, Record.accepts_of_reads rfl hmetadata⟩
  · exact ((((Record.builds_required rfl hid).map Credential.mk).seq
      (Record.builds_required rfl hkind)).seq (Record.builds_required rfl hsecret)).seq
      (Record.builds_withDefault _ rfl hmetadata)

theorem reread?_toJson {c : Credential} (h : c.Legible) : c.toJson.reread? 126 = some c.toJson := by
  have hmetadata : (Json.rereadFields? 124 c.metadata).map Json.object =
      some (.object c.metadata) := h.metadata
  simp [toJson, CredentialKind.toJson, Json.reread?, Json.rereadFields?, hmetadata]

/-- Credentials are read back from their text if they are legible. -/
theorem ofText_list {cs : List Credential} (h : ∀ c ∈ cs, c.Legible) :
    Decoder.ofText (.list decoder) (Json.array (cs.map (·.toJson))).pretty = .ok cs :=
  Decoder.ofText_list (List.forall₂_same.2 fun c hc =>
    ⟨c.toJson, reread?_toJson (h c hc), reads_toJson (h c hc).normal⟩)

end Credential
end KitchenFlow
