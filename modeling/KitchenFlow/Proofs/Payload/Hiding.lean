import KitchenFlow.Proofs.Payload
import KitchenFlow.Proofs.Text

/-!
# What a null hides

A path is followed from the payload as a whole, then from its item, then from its related data. The
first of these places where it leads to anything decides, even if this is a `null`, and then nothing
is found. Since no path leads anywhere in both the payload and its item, all that a `null` can hide
is a value of the related data:

    Payload.firstValue     the first value on a path that is there and not null
    Payload.Unset          a path that leads to a null in the payload or in its item
    Payload.Hides          such a path leads to a value in the related data as well
    Payload.lookup_exact   the first value is found, unless it is hidden
-/

namespace KitchenFlow

variable {p : Payload} {path key : String} {v : Json}

namespace Payload

/-- The first value that is there and not null, among those that a path leads to from the payload as
a whole, from its item and from its related data. -/
def firstValue (p : Payload) (path : String) : Option Json :=
  p.roots.findSome? fun root => (root.walk (Text.trim path)).filter fun v => !v.isNull

/-- A path that leads to a null in the payload as a whole or in its item: to a user that is not
known, to a field that the item does not have, or to a null among the related data. -/
inductive Unset (p : Payload) (path : String) : Prop where
  | user : keysOf path = ["user_id"] → p.userId = none → Unset p path
  | field {field} : p.item.toJson.get? field = some .null →
    keysOf path = [field] ∨ keysOf path = ["inventory_item", field] → Unset p path
  | related {rest} : keysOf path = "related_data" :: rest →
    (Json.object p.relatedData).follow rest = some .null → Unset p path

/-- A null stands before a value of the related data. -/
structure Hides (p : Payload) (path : String) (v : Json) : Prop where
  unset : p.Unset path
  value : (Json.object p.relatedData).walk (Text.trim path) = some v
  isNull : v.isNull = false

end Payload

/-! ## Where a path leads -/

/-- The value of a key is that of one of the fields. -/
theorem Fields.mem_of_get? {fields : Fields} {key : String} {v : Json}
    (h : fields.get? key = some v) : (key, v) ∈ fields := by
  obtain ⟨before, after, rfl, -⟩ := List.lookup_eq_some_iff.1 h
  exact List.mem_append_right _ List.mem_cons_self

/-- From a value without keys, a path leads to this value or nowhere. -/
theorem Json.follow_of_get?_eq_none {u v : Json} {keys : List String}
    (hu : ∀ key, u.get? key = none) : u.follow keys = some v ↔ keys = [] ∧ u = v := by
  cases keys with
  | nil => simp
  | cons key rest => simp [Json.follow_cons, hu]

/-- No field of an item has keys of its own. -/
theorem InventoryItem.get?_eq_none_of_get? {i : InventoryItem} {field : String} {v : Json}
    (h : i.toJson.get? field = some v) (key : String) : v.get? key = none := by
  have htext (s : Option String) : (Json.ofOption .string s).get? key = none := by
    cases s <;> rfl
  have hdays : (Json.ofOption .ofInt i.remainingDays).get? key = none := by
    cases i.remainingDays <;> rfl
  have hquantity : (Json.ofOption .ofBinary64 i.quantity).get? key = none := by
    rcases i.quantity with - | (- | - | -) <;> rfl
  have hmem := Fields.mem_of_get? h
  simp only [List.mem_cons, List.not_mem_nil, or_false, Prod.mk.injEq] at hmem
  rcases hmem with ⟨-, rfl⟩ | ⟨-, rfl⟩ | ⟨-, rfl⟩ | ⟨-, rfl⟩ | ⟨-, rfl⟩ | ⟨-, rfl⟩ | ⟨-, rfl⟩
  · rfl
  · rfl
  · exact htext _
  · exact htext _
  · exact htext _
  · exact hdays
  · exact hquantity

/-- In an item, a path leads to a null only as the name of a field. -/
theorem InventoryItem.follow_eq_null_iff {i : InventoryItem} {keys : List String} :
    i.toJson.follow keys = some .null ↔
      ∃ field, keys = [field] ∧ i.toJson.get? field = some .null := by
  rcases keys with - | ⟨field, rest⟩
  · simp [toJson]
  rw [Json.follow_cons, Option.bind_eq_some_iff]
  constructor
  · rintro ⟨v, hv, hrest⟩
    obtain ⟨rfl, rfl⟩ :=
      (Json.follow_of_get?_eq_none (InventoryItem.get?_eq_none_of_get? hv)).1 hrest
    exact ⟨field, rfl, hv⟩
  · rintro ⟨_, hkeys, hv⟩
    cases hkeys
    exact ⟨_, hv, rfl⟩

namespace Payload

/-- The fields of a payload have other names than those of an item. -/
theorem get?_item_of_get? (h : p.toJson.get? key = some v) : p.item.toJson.get? key = none := by
  have hmem := Fields.mem_of_get? h
  simp only [List.mem_cons, List.not_mem_nil, or_false, Prod.mk.injEq] at hmem
  rcases hmem with ⟨rfl, -⟩ | ⟨rfl, -⟩ | ⟨rfl, -⟩ | ⟨rfl, -⟩ | ⟨rfl, -⟩ <;> rfl

/-- No path leads anywhere in both the payload and its item. -/
theorem follow_item_of_follow (h : p.toJson.follow (keysOf path) = some v) :
    p.item.toJson.follow (keysOf path) = none := by
  rcases hkeys : keysOf path with - | ⟨key, rest⟩
  · exact (keysOf_ne_nil path hkeys).elim
  rw [hkeys, Json.follow_cons, Option.bind_eq_some_iff] at h
  obtain ⟨w, hw, -⟩ := h
  rw [Json.follow_cons, get?_item_of_get? hw, Option.bind_none]

/-- The paths to a null in the payload. -/
theorem unset_of_follow (h : p.toJson.follow (keysOf path) = some .null) : p.Unset path := by
  rcases hkeys : keysOf path with - | ⟨key, rest⟩
  · exact (keysOf_ne_nil path hkeys).elim
  rw [hkeys, Json.follow_cons, Option.bind_eq_some_iff] at h
  obtain ⟨w, hw, hrest⟩ := h
  have hmem := Fields.mem_of_get? hw
  simp only [List.mem_cons, List.not_mem_nil, or_false, Prod.mk.injEq] at hmem
  have hleaf {u : Json} (hu : ∀ key, u.get? key = none) (hfollow : u.follow rest = some .null) :
      rest = [] ∧ u = .null := (Json.follow_of_get?_eq_none hu).1 hfollow
  rcases hmem with ⟨rfl, rfl⟩ | ⟨rfl, rfl⟩ | ⟨rfl, rfl⟩ | ⟨rfl, rfl⟩ | ⟨rfl, rfl⟩
  · obtain ⟨-, hnull⟩ := hleaf (fun _ => rfl) hrest
    cases hnull
  · obtain ⟨-, hnull⟩ := hleaf (fun _ => rfl) hrest
    cases hnull
  · cases huser : p.userId with
    | none =>
      rw [huser] at hrest
      obtain ⟨rfl, -⟩ := hleaf (fun _ => rfl) hrest
      exact .user hkeys huser
    | some user =>
      rw [huser] at hrest
      obtain ⟨-, hnull⟩ := hleaf (fun _ => rfl) hrest
      cases hnull
  · obtain ⟨field, rfl, hfield⟩ := InventoryItem.follow_eq_null_iff.1 hrest
    exact .field hfield (.inr hkeys)
  · exact .related hkeys hrest

/-- What a path leads to in the payload or in its item. -/
def own (p : Payload) (path : String) : Option Json :=
  (p.toJson.follow (keysOf path)).or (p.item.toJson.follow (keysOf path))

/-- The paths listed are those that lead to a null in the payload or in its item. -/
theorem own_eq_null_iff : p.own path = some .null ↔ p.Unset path := by
  rw [own, Option.or_eq_some_iff]
  constructor
  · rintro (h | ⟨-, h⟩)
    · exact unset_of_follow h
    · obtain ⟨field, hkeys, hfield⟩ := InventoryItem.follow_eq_null_iff.1 h
      exact .field hfield (.inl hkeys)
  · rintro (⟨hkeys, huser⟩ | ⟨hfield, hkeys | hkeys⟩ | ⟨hkeys, hrest⟩)
    · have hnull : p.toJson.get? "user_id" = some .null := by
        rw [toJson, huser]
        rfl
      rw [hkeys, Json.follow_cons, hnull]
      exact .inl rfl
    · have hitem := InventoryItem.follow_eq_null_iff.2 ⟨_, hkeys, hfield⟩
      refine .inr ⟨?_, hitem⟩
      cases hroot : p.toJson.follow (keysOf path) with
      | none => rfl
      | some v => rw [follow_item_of_follow hroot] at hitem; cases hitem
    · rw [hkeys]
      exact .inl (InventoryItem.follow_eq_null_iff.2 ⟨_, rfl, hfield⟩)
    · rw [hkeys]
      exact .inl hrest

/-! ## What is found -/

theorem eq_null_of_isNull (hv : v.isNull = true) : v = .null := by
  cases v with
  | null => rfl
  | bool | number | string | array | object => cases hv

theorem filter_of_isNull (hv : v.isNull = false) :
    (some v).filter (fun v => !v.isNull) = some v := by
  rw [Option.filter_some, hv]
  rfl

/-- Of what a path leads to in the payload or its item and in the related data, the lookup takes the
first. -/
theorem lookup_eq_own_or (hpath : Text.isBlank path = false) :
    p.lookup path = ((p.own path).or ((Json.object p.relatedData).follow (keysOf path))).filter
      fun v => !v.isNull := by
  rw [lookup_eq, Text.isEmpty_trim, hpath, findSome?_roots, own, if_neg Bool.false_ne_true]

theorem firstValue_eq_own_or :
    p.firstValue path = ((p.own path).filter fun v => !v.isNull).or
      (((Json.object p.relatedData).follow (keysOf path)).filter fun v => !v.isNull) := by
  have hroots : p.firstValue path =
      (((p.toJson.follow (keysOf path)).filter fun v => !v.isNull).or
        ((p.item.toJson.follow (keysOf path)).filter fun v => !v.isNull)).or
          (((Json.object p.relatedData).follow (keysOf path)).filter fun v => !v.isNull) := by
    show List.findSome? (fun root => (root.follow (keysOf path)).filter fun v => !v.isNull)
      [p.toJson, p.item.toJson, .object p.relatedData] = _
    generalize p.toJson = root, p.item.toJson = item, Json.object p.relatedData = related
    rw [List.findSome?_cons, List.findSome?_cons, List.findSome?_cons, List.findSome?_nil]
    cases (root.follow (keysOf path)).filter fun v => !v.isNull <;>
      cases (item.follow (keysOf path)).filter fun v => !v.isNull <;>
      cases (related.follow (keysOf path)).filter fun v => !v.isNull <;> rfl
  rw [hroots, own]
  cases hroot : p.toJson.follow (keysOf path) with
  | none => rw [Option.filter_none, Option.none_or, Option.none_or]
  | some v => rw [follow_item_of_follow hroot, Option.filter_none, Option.or_none, Option.or_none]

/-- What the lookup of a path finds is the first value on it that is there and not null, unless this
is a value of the related data that a null of the payload or of its item hides; then nothing is
found. -/
theorem lookup_exact (p : Payload) {path : String} (hpath : Text.isBlank path = false) :
    ((∀ v, ¬ p.Hides path v) → p.lookup path = p.firstValue path) ∧
      ∀ v, p.Hides path v → p.lookup path = none ∧ p.firstValue path = some v := by
  rw [lookup_eq_own_or hpath, firstValue_eq_own_or]
  constructor
  · intro hno
    rcases hown : p.own path with - | v
    · rw [Option.filter_none, Option.none_or, Option.none_or]
    cases hv : v.isNull with
    | false => rw [Option.some_or, filter_of_isNull hv, Option.some_or]
    | true =>
      -- what is behind the null is nothing, or a null too
      rw [eq_null_of_isNull hv] at hown ⊢
      rcases hrelated : (Json.object p.relatedData).follow (keysOf path) with - | w
      · rfl
      cases hw : w.isNull with
      | true =>
        rw [eq_null_of_isNull hw]
        rfl
      | false => exact (hno w ⟨own_eq_null_iff.1 hown, hrelated, hw⟩).elim
  · rintro v ⟨hunset, hvalue, hv⟩
    have hrelated : (Json.object p.relatedData).follow (keysOf path) = some v := hvalue
    rw [own_eq_null_iff.2 hunset, hrelated, filter_of_isNull hv]
    exact ⟨rfl, rfl⟩

end Payload

/-! ## A place in the cellar -/

/-- Milk of which the inventory does not know where it is, and a note of that among the related
data. -/
def Example.cellarPayload : Payload :=
  ⟨.expiration, .epoch, none, ⟨"item-101", "Milk", some "Dairy", none, none, some 2, none⟩,
    [("location", .string "cellar")]⟩

namespace Payload

open Example (cellarPayload)

/-- The place is found by the full path of the note, and not by its bare name. -/
theorem lookup_exact_cellar :
    (Text.isBlank "related_data.location" = false ∧
      (∀ v, ¬ cellarPayload.Hides "related_data.location" v) ∧
      cellarPayload.lookup "related_data.location" =
        cellarPayload.firstValue "related_data.location") ∧
    (Text.isBlank "location" = false ∧
      cellarPayload.Hides "location" (.string "cellar") ∧
      cellarPayload.lookup "location" = none ∧
      cellarPayload.firstValue "location" = some (.string "cellar")) := by
  have hfull : Text.isBlank "related_data.location" = false := by decide
  have hbare : Text.isBlank "location" = false := by decide
  have hkeys : keysOf "location" = ["location"] := by decide
  have hshown : ∀ v, ¬ cellarPayload.Hides "related_data.location" v := by
    intro v h
    have hown : cellarPayload.own "related_data.location" = some (.string "cellar") := rfl
    rw [own_eq_null_iff.2 h.unset] at hown
    cases hown
  have hnull : cellarPayload.item.toJson.get? "location" = some .null := rfl
  have hhidden : cellarPayload.Hides "location" (.string "cellar") :=
    ⟨.field hnull (.inl hkeys), rfl, rfl⟩
  exact ⟨⟨hfull, hshown, (lookup_exact cellarPayload hfull).1 hshown⟩,
    hbare, hhidden, (lookup_exact cellarPayload hbare).2 _ hhidden⟩

/-- It is not the case that a lookup finds the first value that is there and not null. -/
theorem not_lookup_eq_firstValue :
    ¬ ∀ (p : Payload) (path : String), Text.isBlank path = false →
      p.lookup path = p.firstValue path := by
  intro h
  have hlookup : cellarPayload.lookup "location" = none := rfl
  have hfirst : cellarPayload.firstValue "location" = some (.string "cellar") := rfl
  have heq := h cellarPayload "location" (by decide)
  rw [hlookup, hfirst] at heq
  cases heq

end Payload
end KitchenFlow
