import KitchenFlow.Proofs.Json.Room
import KitchenFlow.Proofs.Store.Texts

/-!
# Payloads read back

A payload can be read from many values: from an object or a list, with fields left out, with a
timestamp of any offset and any number of decimals. The value that it is written as is one of them,
and it is the same one every time. What was read is an instant that can be written, an item whose
numbers can be, and related data in normal form, so a payload that was read is read back from its
value, with the keys as they were written or in ascending order.

A text of that value gives the payload back too, if reading gives back the numbers in it.

    Document.within_ofJson       a value that there is room for, as a document
    Payload.sound_of_decoder     what holds of every payload that was read
    Payload.reads_toJson         a sound payload is read back from its value
    Payload.Legible              what reading its text gives back the numbers of
    Payload.round_trips          a payload that was read from any value
-/

namespace KitchenFlow

open Document (Within)

/-! ## Numbers that were read -/

theorem Binary64.isFinite_of_between {low x high : Binary64} (hlow : low.isFinite = true)
    (hhigh : high.isFinite = true) (hle : low.ble x = true) (hge : x.ble high = true) :
    x.isFinite = true := by
  obtain ⟨_, _, rfl⟩ := isFinite_iff.1 hlow
  obtain ⟨_, _, rfl⟩ := isFinite_iff.1 hhigh
  cases x with
  | finite => rfl
  | nan => cases hle
  | infinite negative =>
    cases negative with
    | false => cases hge
    | true => cases hle

/-- A number that there is room for is finite as a binary64 number. -/
theorem JsonNumber.Held.isFinite {n : JsonNumber} (h : n.Held) : n.toBinary64.isFinite = true := by
  cases h with
  | int hlow hhigh =>
    have hlow := Binary64.ofInt_mono hlow
    have hhigh := Binary64.ofInt_mono (Int.le_of_lt hhigh)
    exact Binary64.isFinite_of_between (by decide +kernel) (by decide +kernel) hlow hhigh
  | float hx =>
    cases hx
    rfl

namespace Decoder

variable {doc : Document} {levels : Nat}

theorem range_of_int64 {n : Int} (h : int64 doc = .ok n) : -2 ^ 63 ≤ n ∧ n < 2 ^ 63 := by
  have hpow : Int.pow 2 63 = 9223372036854775808 := rfl
  unfold int64 integer at h
  split at h
  · obtain ⟨m, -, h⟩ := Fallible.bind_eq_ok_iff.1 h
    split at h
    · split_ifs at h with hrange
      cases h
      omega
    · cases h
  · cases h

theorem isFinite_of_binary64 (hdoc : doc.Within levels) {x : Binary64}
    (h : binary64 doc = .ok x) : x.isFinite = true := by
  unfold binary64 at h
  split at h
  · obtain ⟨n, hn, rfl⟩ := Fallible.map_eq_ok_iff.1 h
    cases hdoc with
    | number hheld => exact (hheld n (value_eq_of_scalar hn)).isFinite
  · cases h

end Decoder

/-! ## What was read -/

/-- The days are a number of 64 bits, and the quantity is finite. -/
structure InventoryItem.Sound (i : InventoryItem) : Prop where
  remainingDays : ∀ n ∈ i.remainingDays, -2 ^ 63 ≤ n ∧ n < 2 ^ 63
  quantity : ∀ x ∈ i.quantity, x.isFinite = true

/-- The instant can be written, the item is sound, and the related data are in normal form. -/
structure Payload.Sound (p : Payload) : Prop where
  timestamp : p.timestamp.Proper
  item : p.item.Sound
  relatedData : (Json.object p.relatedData).Normal

variable {doc : Document} {levels : Nat}

theorem InventoryItem.sound_of_decoder (hdoc : doc.Within levels) {i : InventoryItem}
    (h : InventoryItem.decoder doc = .ok i) : i.Sound := by
  obtain ⟨slot, absent, h, hparts⟩ := Record.exists_build h
  simp only [InventoryItem.record, Record.build_seq, Record.build_map] at h
  obtain ⟨_, ⟨_, ⟨_, ⟨_, ⟨_, ⟨_, ⟨id, -, rfl⟩, name, -, rfl⟩, category, -, rfl⟩, location, -,
    rfl⟩, status, -, rfl⟩, days, hdays, rfl⟩, quantity, hquantity, rfl⟩ := h
  constructor
  · intro n hn
    rcases Record.build_withDefault hdays with rfl | ⟨_, -, hdays⟩
    · cases hn
    · exact Decoder.range_of_int64 (Decoder.exists_of_optional hdays hn)
  · intro x hx
    rcases Record.build_withDefault hquantity with rfl | ⟨part, hslot, hquantity⟩
    · cases hx
    · have hpart := hdoc.of_mem_parts (hparts _ part hslot)
      exact Decoder.isFinite_of_binary64 hpart (Decoder.exists_of_optional hquantity hx)

/-- Every payload that was read is sound. -/
theorem Payload.sound_of_decoder (hdoc : doc.Within levels) {p : Payload}
    (h : Payload.decoder doc = .ok p) : p.Sound := by
  obtain ⟨slot, absent, h, hparts⟩ := Record.exists_build h
  simp only [Payload.record, Record.build_seq, Record.build_map] at h
  obtain ⟨_, ⟨_, ⟨_, ⟨_, ⟨event, -, rfl⟩, timestamp, htimestamp, rfl⟩, user, -, rfl⟩, item, hitem,
    rfl⟩, related, hrelated, rfl⟩ := h
  obtain ⟨_, -, htimestamp⟩ := Record.build_required htimestamp
  obtain ⟨part, hslot, hitem⟩ := Record.build_required hitem
  refine ⟨Decoder.proper_of_timestamp htimestamp,
    InventoryItem.sound_of_decoder (hdoc.of_mem_parts (hparts _ part hslot)) hitem, ?_⟩
  rcases Record.build_withDefault hrelated with rfl | ⟨_, -, hrelated⟩
  · exact ⟨List.Pairwise.nil, trivial⟩
  · exact Decoder.normal_of_fields hrelated

/-! ## What is read back -/

theorem Json.sorted_ofOption {α : Type} {f : α → Json} (hf : ∀ a, (f a).sorted = f a)
    (o : Option α) : (Json.ofOption f o).sorted = .ofOption f o := by
  cases o with
  | none => rfl
  | some a => exact hf a

theorem Json.sorted_ofOption_string (s : Option String) :
    (Json.ofOption .string s).sorted = .ofOption .string s :=
  sorted_ofOption (fun _ => rfl) s

namespace InventoryItem

variable {i : InventoryItem}

/-- A finite quantity is written as a number, which is read. -/
theorem Sound.reads_quantity (h : i.Sound) :
    Decoder.Reads (.optional .binary64) (.ofOption .ofBinary64 i.quantity) i.quantity := by
  refine Decoder.reads_ofOption fun x hx => ?_
  rw [Json.ofBinary64, if_pos (h.quantity x hx)]
  exact ⟨Decoder.reads_binary64 rfl, rfl⟩

theorem reads_toJson (h : i.Sound) : Decoder.Reads decoder i.toJson i :=
  reads_fieldsOf h.remainingDays h.reads_quantity

theorem reads_sorted_toJson (h : i.Sound) : Decoder.Reads decoder i.toJson.sorted i := by
  have hquantity :
      (Json.ofOption .ofBinary64 i.quantity).sorted = .ofOption .ofBinary64 i.quantity := by
    refine Json.sorted_ofOption (fun x => ?_) _
    rw [Json.ofBinary64]
    split <;> rfl
  have hdays : (Json.ofOption .ofInt i.remainingDays).sorted = .ofOption .ofInt i.remainingDays :=
    Json.sorted_ofOption (fun _ => rfl) _
  have hsorted : (i.fieldsOf (.ofOption .ofBinary64 i.quantity)).map (fun e => (e.1, e.2.sorted)) =
      i.fieldsOf (.ofOption .ofBinary64 i.quantity) := by
    simp [fieldsOf, Json.sorted, Json.sorted_ofOption_string, hdays, hquantity]
  refine Record.Takes.reads_sorted (hsorted ▸ takes_fieldsOf h.remainingDays h.reads_quantity) _
    fun e he => ?_
  exact fieldsOf_names i _ ▸ List.mem_map_of_mem he

end InventoryItem

namespace Payload

variable {p : Payload} {item : Json}

/-- The fields of a payload, whatever its item is written as. -/
def fieldsOf (p : Payload) (item : Json) : Fields :=
  [("trigger_event", p.triggerEvent.toJson), ("timestamp", p.timestamp.toJson),
    ("user_id", .ofOption .string p.userId), ("inventory_item", item),
    ("related_data", .object p.relatedData)]

theorem takes_fieldsOf (h : p.Sound) (hitem : Decoder.Reads InventoryItem.decoder item p.item) :
    record.Takes (p.fieldsOf item) p := by
  have hevent : Decoder.Reads TriggerEvent.decoder p.triggerEvent.toJson p.triggerEvent :=
    Decoder.reads_variant p.triggerEvent.ofName?_name
  exact (((((Record.takes_required rfl hevent).map Payload.mk).seq
    (Record.takes_required rfl (Decoder.reads_timestamp h.timestamp))).seq
    (Record.takes_withDefault _ rfl (Decoder.reads_ofOption_string p.userId))).seq
    (Record.takes_required rfl hitem)).seq
    (Record.takes_withDefault _ rfl (Decoder.reads_fields h.relatedData))

theorem fieldsOf_names (p : Payload) (item : Json) :
    (p.fieldsOf item).map Prod.fst = record.names := rfl

theorem reads_fieldsOf (h : p.Sound) (hitem : Decoder.Reads InventoryItem.decoder item p.item) :
    Decoder.Reads decoder (.object (p.fieldsOf item)) p :=
  (takes_fieldsOf h hitem).reads_object "Payload" (by simp [fieldsOf]) fun e he =>
    fieldsOf_names p item ▸ List.mem_map_of_mem he

/-- A sound payload is read back from its value. -/
theorem reads_toJson (h : p.Sound) : Decoder.Reads decoder p.toJson p :=
  reads_fieldsOf h (InventoryItem.reads_toJson h.item)

theorem reads_sorted_toJson (h : p.Sound) : Decoder.Reads decoder p.toJson.sorted p := by
  have hsorted : (p.fieldsOf p.item.toJson).map (fun e => (e.1, e.2.sorted)) =
      p.fieldsOf p.item.toJson.sorted := by
    have hrelated := Json.NormalFields.sorted_eq h.relatedData.1 h.relatedData.2
    simp [fieldsOf, Json.sorted, Json.sorted_ofOption_string, TriggerEvent.toJson, Instant.toJson,
      hrelated]
  have hitem := InventoryItem.reads_sorted_toJson h.item
  refine Record.Takes.reads_sorted (hsorted ▸ takes_fieldsOf h hitem) _ fun e he => ?_
  exact fieldsOf_names p _ ▸ List.mem_map_of_mem he

/-- Reading its text gives back the numbers of the item and the related data. These stand one level
deep. -/
structure Legible (p : Payload) : Prop where
  item : p.item.Legible
  relatedData : (Json.object p.relatedData).reread? 126 = some (.object p.relatedData)

/-- A sound payload whose numbers can be read back is read back from its text. -/
theorem ofText_toJson (h : p.Sound) (hlegible : p.Legible) :
    Decoder.ofText decoder p.toJson.pretty = .ok p := by
  obtain ⟨item, hitem, hreads⟩ := InventoryItem.exists_reread hlegible.item
  have hrelated : (Json.rereadFields? 125 p.relatedData).map Json.object =
      some (.object p.relatedData) := hlegible.relatedData
  refine Decoder.ofText_pretty (reads_fieldsOf h hreads) ?_
  simp [toJson, fieldsOf, Json.reread?, Json.rereadFields?, Json.reread?_ofOption_string, hitem,
    hrelated, TriggerEvent.toJson, Instant.toJson]

/-! ## What becomes of a payload that was read -/

/-- A payload that was read from a value, however deep this is, is read back from the value that it
is written as, with its keys in the order of the record or in ascending order, and is then written
in the same way. It is read back from its text if its numbers are. -/
theorem round_trips {v : Json} {levels : Nat} (hv : v.Fits levels)
    (h : Decoder.ofJson decoder v = .ok p) :
    Decoder.ofJson decoder p.toJson = .ok p ∧ Decoder.ofJson decoder p.toJson.sorted = .ok p ∧
      (Decoder.ofJson decoder p.toJson).map toJson = .ok p.toJson ∧
        (Decoder.ofJson decoder p.toJson.sorted).map (·.toJson.sorted) = .ok p.toJson.sorted ∧
          (p.Legible → Decoder.ofText decoder p.toJson.pretty = .ok p) := by
  have hp := sound_of_decoder (Document.within_ofJson hv) h
  have hread := (reads_toJson hp).ofJson
  have hsorted := (reads_sorted_toJson hp).ofJson
  refine ⟨hread, hsorted, ?_, ?_, ofText_toJson hp⟩
  · rw [hread]
    rfl
  · rw [hsorted]
    rfl

namespace Example

/-- A payload as lists, from half a second into a leap second far away, by a clock two hours ahead;
the quantity is an integer, and the related data are left out. -/
def farValue : Json :=
  .array [.string "expiration", .string "+12345-06-30T23:59:60.5+02:00", .null,
    .array [.string "item-1", .string "Milk", .null, .null, .null, .number (.int 2),
      .number (.int 3)]]

/-- The payload of that value. -/
def farPayload : Payload :=
  ⟨.expiration, ⟨327419013599, 1500000000⟩, none,
    ⟨"item-1", "Milk", none, none, none, some 2, some (Binary64.ofInt 3)⟩, []⟩

theorem ofJson_farValue : Decoder.ofJson decoder farValue = .ok farPayload := by
  have hparts : ((Decoder.ofJson decoder farValue).map fun p =>
      (p.triggerEvent, p.timestamp, p.userId, p.item, p.relatedData.isEmpty)).toOption =
        some (farPayload.triggerEvent, farPayload.timestamp, none, farPayload.item, true) := by
    decide +kernel
  obtain ⟨p, hread, hp⟩ :=
    Fallible.map_eq_ok_iff.1 (Fallible.toOption_eq_some_iff.1 hparts)
  obtain ⟨event, timestamp, user, item, related⟩ := p
  simp only [Prod.mk.injEq, List.isEmpty_iff] at hp
  obtain ⟨rfl, rfl, rfl, rfl, rfl⟩ := hp
  exact hread

/-- It is written with the time in UTC and an item whose quantity is no integer. -/
theorem round_trips_far :
    farValue.Fits 2 ∧ Decoder.ofJson decoder farValue = .ok farPayload ∧
      Decoder.ofJson decoder farPayload.toJson = .ok farPayload := by
  have hfits : farValue.Fits 2 := by
    refine .array ?_
    simp only [List.forall_mem_cons, List.not_mem_nil, false_implies, implies_true, and_true]
    refine ⟨.string _, .string _, .null, .array ?_⟩
    simp only [List.forall_mem_cons, List.not_mem_nil, false_implies, implies_true, and_true]
    exact ⟨.string _, .string _, .null, .null, .null, .number (.int (by decide) (by decide)),
      .number (.int (by decide) (by decide))⟩
  exact ⟨hfits, ofJson_farValue, (round_trips hfits ofJson_farValue).1⟩

end Example
end Payload
end KitchenFlow
