import KitchenFlow.Payload.Template

/-!
# What is read of the related data

A path can lead to an entry of the related data in three ways: it names the related data as a
whole, it names the entry in the related data, or it begins with the key of the entry and leads
nowhere in the payload itself and its item. Two payloads that differ in other entries only are not
told apart by it:

    Payload.Alike.lookup   q.lookup path = p.lookup path
    Payload.Alike.render   q.render template = p.render template
-/

namespace KitchenFlow

namespace Payload

/-- The keys that a path consists of. -/
def keysOf (path : String) : List String := Text.splitAt '.' (Text.trim path)

/-- The names of the fields of a payload, other than its related data, and of an item. -/
def ownFields : List String :=
  ["trigger_event", "timestamp", "user_id", "inventory_item", "id", "name", "category", "location",
    "status", "remaining_days", "quantity"]

/-- A path may lead to an entry of the related data, or into it. -/
inductive Reads (path key : String) : Prop where
  | whole : keysOf path = ["related_data"] → Reads path key
  | below {rest} : keysOf path = "related_data" :: key :: rest → Reads path key
  | bare {rest} : keysOf path = key :: rest → (rest = [] → key ∉ ownFields) → Reads path key

/-- Two payloads are the same but for some entries of their related data. -/
structure Alike (K : String → Prop) (p q : Payload) : Prop where
  rest : { p with relatedData := q.relatedData } = q
  entries : ∀ key, ¬ K key → q.relatedData.get? key = p.relatedData.get? key
  same : (∀ key, ¬ K key) → q = p

variable {K : String → Prop} {p q : Payload} {path : String}

theorem Alike.refl (K : String → Prop) (p : Payload) : Alike K p p :=
  ⟨rfl, fun _ _ => rfl, fun _ => rfl⟩

theorem Alike.item (h : Alike K p q) : q.item = p.item := by rw [← h.rest]

/-- What is not under the name of the related data is the same. -/
theorem Alike.get?_toJson (h : Alike K p q) {key : String} (hkey : key ≠ "related_data") :
    q.toJson.get? key = p.toJson.get? key := by
  rw [← h.rest]
  simp [toJson, Json.get?, Fields.get?_cons, hkey]

theorem get?_toJson_related (p : Payload) :
    p.toJson.get? "related_data" = some (.object p.relatedData) := rfl

/-- The fields of a payload and of an item are there, if only as `null`. -/
theorem isSome_of_mem_ownFields (p : Payload) {key : String} (h : key ∈ ownFields) :
    ((p.toJson.get? key).or (p.item.toJson.get? key)).isSome := by
  simp only [ownFields, List.mem_cons, List.not_mem_nil, or_false] at h
  rcases h with rfl | rfl | rfl | rfl | rfl | rfl | rfl | rfl | rfl | rfl | rfl <;> rfl

theorem keysOf_ne_nil (path : String) : keysOf path ≠ [] := by
  rw [keysOf, Text.splitAt, ne_eq, List.map_eq_nil_iff]
  exact Text.splitChars_ne_nil _ _

/-- The keys of a path are followed from one place after the other. -/
theorem lookup_eq (p : Payload) (path : String) :
    p.lookup path =
      if (Text.trim path).isEmpty then none
      else (p.roots.findSome? (·.follow (keysOf path))).filter fun v => !v.isNull := rfl

/-- Following a path into the related data begins with an entry. -/
theorem Alike.follow_relatedData (h : Alike K p q) {key : String} (hkey : ¬ K key)
    (more : List String) :
    (Json.object q.relatedData).follow (key :: more) =
      (Json.object p.relatedData).follow (key :: more) := by
  rw [Json.follow_cons, Json.follow_cons]
  exact congrArg (Option.bind · _) (h.entries key hkey)

/-- Following a path from the whole payload may lead to the related data, and on to an entry. -/
theorem Alike.follow_toJson (h : Alike K p q) {key : String} {more : List String}
    (hwhole : key :: more ≠ ["related_data"])
    (hbelow : ∀ entry rest, key :: more = "related_data" :: entry :: rest → ¬ K entry) :
    q.toJson.follow (key :: more) = p.toJson.follow (key :: more) := by
  rw [Json.follow_cons, Json.follow_cons]
  by_cases hkey : key = "related_data"
  · subst hkey
    cases more with
    | nil => exact (hwhole rfl).elim
    | cons entry rest => exact h.follow_relatedData (hbelow entry rest rfl) rest
  · rw [h.get?_toJson hkey]

/-- The places that a path is followed from are tried one after the other. -/
theorem findSome?_roots (p : Payload) (keys : List String) :
    p.roots.findSome? (·.follow keys) =
      ((p.toJson.follow keys).or (p.item.toJson.follow keys)).or
        ((Json.object p.relatedData).follow keys) := by
  simp only [roots, List.findSome?_cons, List.findSome?_nil]
  cases p.toJson.follow keys <;> cases p.item.toJson.follow keys <;>
    cases (Json.object p.relatedData).follow keys <;> rfl

theorem Alike.findSome?_roots (h : Alike K p q) (hno : ∀ key, K key → ¬ Reads path key) :
    q.roots.findSome? (·.follow (keysOf path)) = p.roots.findSome? (·.follow (keysOf path)) := by
  by_cases hnone : ∀ key, ¬ K key
  · rw [h.same hnone]
  obtain ⟨other, hother⟩ := Classical.not_forall_not.1 hnone
  rcases hkeys : keysOf path with - | ⟨key, more⟩
  · exact (keysOf_ne_nil path hkeys).elim
  have hroot : q.toJson.follow (key :: more) = p.toJson.follow (key :: more) := by
    refine h.follow_toJson (fun hwhole => ?_) fun entry rest hbelow hentry => ?_
    · exact hno other hother (.whole (hkeys.trans hwhole))
    · exact hno entry hentry (.below (hkeys.trans hbelow))
  rw [Payload.findSome?_roots, Payload.findSome?_roots, hroot, h.item]
  by_cases hown : more = [] ∧ key ∈ ownFields
  · -- the path ends at a field, so the related data is not looked at
    obtain ⟨rfl, hown⟩ := hown
    have hsome : ((p.toJson.follow [key]).or (p.item.toJson.follow [key])).isSome := by
      simpa [Json.follow_cons] using isSome_of_mem_ownFields p hown
    rw [Option.or_of_isSome hsome, Option.or_of_isSome hsome]
  · rw [h.follow_relatedData (fun hkey => hno key hkey (.bare hkeys fun hnil hmem =>
      hown ⟨hnil, hmem⟩)) more]

/-- A path that leads to none of the entries in which two payloads differ finds the same in both. -/
theorem Alike.lookup (h : Alike K p q) (hno : ∀ key, K key → ¬ Reads path key) :
    q.lookup path = p.lookup path := by
  have hfind := h.findSome?_roots hno
  unfold keysOf at hfind
  simp only [Payload.lookup, Json.walk, hfind]

end Payload

/-- The paths of the holes in a template. -/
def Template.paths (template : String) : List String :=
  (pieces template.toList).filterMap fun
    | .literal _ => none
    | .hole path => some (String.ofList path)

namespace Payload

variable {K : String → Prop} {p q : Payload}

/-- A template whose holes lead to none of the entries in which two payloads differ is filled alike
from both. -/
theorem Alike.render (h : Alike K p q) {template : String}
    (hno : ∀ path ∈ Template.paths template, ∀ key, K key → ¬ Reads path key) :
    q.render template = p.render template := by
  rw [Payload.render, Payload.render]
  refine congrArg String.join (List.map_congr_left fun piece hpiece => ?_)
  cases piece with
  | literal text => rfl
  | hole path =>
    have hmem : String.ofList path ∈ Template.paths template :=
      List.mem_filterMap.2 ⟨_, hpiece, rfl⟩
    rw [fill, fill, h.lookup (hno _ hmem)]

/-- Payloads that are alike stay so when the same entry is set in both. -/
theorem Alike.setRelated (h : Alike K p q) (key : String) (value : Json) :
    Alike K (p.setRelated key value) (q.setRelated key value) := by
  refine ⟨?_, fun other hother => ?_, fun hnone => by rw [h.same hnone]⟩
  · rw [← h.rest]
    rfl
  · by_cases hkey : other = key
    · subst hkey
      exact (Fields.get?_insert_self _ _ _).trans (Fields.get?_insert_self _ _ _).symm
    · exact (Fields.get?_insert_of_ne hkey).trans
        ((h.entries other hother).trans (Fields.get?_insert_of_ne hkey).symm)

/-- A payload stays alike to what it was when one of the entries is set that it may differ in. -/
theorem Alike.setRelated_right (h : Alike K p q) {key : String} (hkey : K key) (value : Json) :
    Alike K p (q.setRelated key value) := by
  refine ⟨?_, fun other hother => ?_, fun hnone => (hnone key hkey).elim⟩
  · rw [← h.rest]
    rfl
  · have hne : other ≠ key := fun heq => hother (heq ▸ hkey)
    exact (Fields.get?_insert_of_ne hne).trans (h.entries other hother)

end Payload
end KitchenFlow
