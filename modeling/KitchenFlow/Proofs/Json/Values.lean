import KitchenFlow.Json.Decoder
import KitchenFlow.Proofs.Fallible
import Mathlib.Data.String.Basic

/-!
# Values in normal form

An object that was read lists its keys in ascending order, each of them once, and so do all objects
inside of it. Reading such a value leaves it as it is:

    Json.Normal            a value whose objects all list their keys in order
    Decoder.normal_of_json whatever is read is normal
    Fields.ofEntries_eq    entries in order are the fields made of them
    Json.Normal.sorted_eq  sorting leaves a normal value as it is
-/

namespace KitchenFlow

namespace Fields

/-- The keys are in ascending order. -/
def Ordered (fields : Fields) : Prop := fields.Pairwise fun e f => e.1 < f.1

variable {fields : Fields} {key : String} {value : Json}

theorem mem_insert {e : String × Json} (h : e ∈ fields.insert key value) :
    e = (key, value) ∨ e ∈ fields := by
  induction fields with
  | nil => exact .inl (List.mem_singleton.1 h)
  | cons f rest ih =>
    obtain ⟨k, v⟩ := f
    rw [insert] at h
    split at h
    · rcases List.mem_cons.1 h with h | h
      · exact .inl h
      · exact .inr (List.mem_cons_of_mem _ h)
    · split at h
      · exact List.mem_cons.1 h
      · rcases List.mem_cons.1 h with h | h
        · exact .inr (h ▸ List.mem_cons_self)
        · exact (ih h).imp_right (List.mem_cons_of_mem _)

theorem Ordered.insert (h : Ordered fields) : Ordered (fields.insert key value) := by
  induction fields with
  | nil => exact List.pairwise_singleton _ _
  | cons f rest ih =>
    obtain ⟨k, v⟩ := f
    obtain ⟨hfirst, hrest⟩ := List.pairwise_cons.1 h
    rw [Fields.insert]
    split
    · next hk => exact List.pairwise_cons.2 ⟨fun e he => hk ▸ hfirst e he, hrest⟩
    · next hne =>
      split
      · next hlt =>
        refine List.pairwise_cons.2 ⟨fun e he => ?_, h⟩
        rcases List.mem_cons.1 he with rfl | he
        · exact hlt
        · exact lt_trans hlt (hfirst e he)
      · next hge =>
        refine List.pairwise_cons.2 ⟨fun e he => ?_, ih hrest⟩
        rcases mem_insert he with rfl | he
        · exact lt_of_le_of_ne (not_lt.1 hge) (Ne.symm hne)
        · exact hfirst e he

/-- A key behind all others is put at the end. -/
theorem insert_of_lt (h : ∀ e ∈ fields, e.1 < key) :
    fields.insert key value = fields ++ [(key, value)] := by
  induction fields with
  | nil => rfl
  | cons f rest ih =>
    obtain ⟨k, v⟩ := f
    obtain ⟨hk, hrest⟩ := List.forall_mem_cons.1 h
    rw [insert, if_neg (ne_of_gt hk), if_neg (lt_asymm hk), ih hrest]
    rfl

/-- A key before all others is put at the beginning. -/
theorem insert_of_forall_lt (h : ∀ e ∈ fields, key < e.1) :
    fields.insert key value = (key, value) :: fields := by
  cases fields with
  | nil => rfl
  | cons f rest =>
    have hk := h f List.mem_cons_self
    rw [insert, if_neg (ne_of_lt hk), if_pos hk]

/-- Keys in ascending order are distinct. -/
theorem Ordered.nodup (h : Ordered fields) : (fields.map Prod.fst).Nodup :=
  List.pairwise_map.2 (h.imp fun hlt => ne_of_lt hlt)

/-- The value of a key that occurs once is the one that it occurs with. -/
theorem get?_of_mem (hnodup : (fields.map Prod.fst).Nodup) (h : (key, value) ∈ fields) :
    fields.get? key = some value := by
  induction fields with
  | nil => cases h
  | cons e rest ih =>
    obtain ⟨k, v⟩ := e
    rw [List.map_cons, List.nodup_cons] at hnodup
    rw [get?_cons]
    rcases List.mem_cons.1 h with heq | hrest
    · cases heq
      exact if_pos rfl
    · have hne : key ≠ k := fun heq => hnodup.1 (List.mem_map.2 ⟨_, hrest, heq⟩)
      rw [if_neg hne]
      exact ih hnodup.2 hrest

theorem get?_map (f : Json → Json) (fields : Fields) (key : String) :
    get? (fields.map fun e => (e.1, f e.2)) key = (fields.get? key).map f := by
  induction fields with
  | nil => rfl
  | cons e rest ih =>
    obtain ⟨k, v⟩ := e
    rw [List.map_cons, get?_cons, get?_cons]
    split
    · rfl
    · exact ih

theorem foldl_insert (before entries : Fields) (h : Ordered (before ++ entries)) :
    entries.foldl (fun fields e => fields.insert e.1 e.2) before = before ++ entries := by
  induction entries generalizing before with
  | nil => exact (List.append_nil _).symm
  | cons e rest ih =>
    have hlast : ∀ f ∈ before, f.1 < e.1 := fun f hf =>
      (List.pairwise_append.1 h).2.2 f hf e List.mem_cons_self
    rw [List.foldl_cons, insert_of_lt hlast, ih, List.append_assoc]
    · rfl
    · rwa [List.append_assoc]

/-- Entries in ascending order are the fields that are made of them. -/
theorem ofEntries_eq (h : Ordered fields) : ofEntries fields = fields := foldl_insert [] fields h

theorem ordered_ofEntries (entries : List (String × Json)) : Ordered (ofEntries entries) := by
  have hgo : ∀ {fields : Fields}, Ordered fields →
      Ordered (entries.foldl (fun fields e => fields.insert e.1 e.2) fields) := by
    induction entries with
    | nil => exact fun h => h
    | cons e rest ih => exact fun h => ih h.insert
  exact hgo List.Pairwise.nil

theorem mem_ofEntries {entries : List (String × Json)} {e : String × Json}
    (h : e ∈ ofEntries entries) : e ∈ entries := by
  have hgo : ∀ {fields : Fields},
      e ∈ entries.foldl (fun fields e => fields.insert e.1 e.2) fields →
        e ∈ fields ∨ e ∈ entries := by
    clear h
    induction entries with
    | nil => exact fun h => .inl h
    | cons f rest ih =>
      intro fields h
      rcases ih h with h | h
      · exact (mem_insert h).elim (fun h => .inr (h ▸ List.mem_cons_self)) .inl
      · exact .inr (List.mem_cons_of_mem _ h)
  exact (hgo h).resolve_left List.not_mem_nil

end Fields

namespace Json

mutual

/-- All objects in a value list their keys in ascending order. -/
def Normal : Json → Prop
  | .array items => NormalItems items
  | .object fields => Fields.Ordered fields ∧ NormalFields fields
  | _ => True

/-- `Normal` of each of several values. -/
def NormalItems : List Json → Prop
  | [] => True
  | v :: rest => Normal v ∧ NormalItems rest

/-- `Normal` of the values of fields. -/
def NormalFields : List (String × Json) → Prop
  | [] => True
  | (_, v) :: rest => Normal v ∧ NormalFields rest

end

theorem normalFields_iff {fields : List (String × Json)} :
    NormalFields fields ↔ ∀ e ∈ fields, e.2.Normal := by
  induction fields with
  | nil => simp [NormalFields]
  | cons e rest ih => simp [NormalFields, ih]

/-! ### Sorting -/

variable {fields : Fields}

theorem ordered_sortedFields (fields : Fields) : (sortedFields fields).Ordered := by
  induction fields with
  | nil => exact List.Pairwise.nil
  | cons e rest ih => exact ih.insert

theorem mem_sortedFields {e : String × Json} (h : e ∈ sortedFields fields) :
    ∃ f ∈ fields, e = (f.1, f.2.sorted) := by
  induction fields with
  | nil => cases h
  | cons f rest ih =>
    rcases Fields.mem_insert h with rfl | h
    · exact ⟨f, List.mem_cons_self, rfl⟩
    · obtain ⟨g, hg, rfl⟩ := ih h
      exact ⟨g, List.mem_cons_of_mem _ hg, rfl⟩

/-- Under each key there is what was there, sorted. -/
theorem get?_sortedFields (fields : Fields) (key : String) :
    (sortedFields fields).get? key = (fields.get? key).map sorted := by
  induction fields with
  | nil => rfl
  | cons f rest ih =>
    obtain ⟨k, v⟩ := f
    rw [sortedFields, Fields.get?_cons]
    split
    · next hk =>
      rw [hk]
      exact Fields.get?_insert_self _ _ _
    · next hk => rw [Fields.get?_insert_of_ne hk, ih]

mutual

/-- A value in normal form is sorted. -/
theorem Normal.sorted_eq : ∀ {v : Json}, v.Normal → v.sorted = v
  | .null, _ | .bool _, _ | .number _, _ | .string _, _ => rfl
  | .array _, h => congrArg Json.array (NormalItems.sorted_eq h)
  | .object _, h => congrArg Json.object (NormalFields.sorted_eq h.1 h.2)

theorem NormalItems.sorted_eq : ∀ {items : List Json}, NormalItems items → sortedItems items = items
  | [], _ => rfl
  | _ :: _, h => by rw [sortedItems, Normal.sorted_eq h.1, NormalItems.sorted_eq h.2]

theorem NormalFields.sorted_eq : ∀ {fields : Fields}, fields.Ordered → NormalFields fields →
    sortedFields fields = fields
  | [], _, _ => rfl
  | (_, _) :: rest, hordered, h => by
    obtain ⟨hfirst, hrest⟩ := List.pairwise_cons.1 hordered
    rw [sortedFields, Normal.sorted_eq h.1, NormalFields.sorted_eq hrest h.2]
    exact Fields.insert_of_forall_lt hfirst

end

end Json

namespace Decoder

mutual

/-- What is read is normal. -/
theorem normal_of_json : ∀ (d : Document) {v : Json}, json d = .ok v → v.Normal
  | .null _, _, h => by cases h; trivial
  | .bool .., _, h => by cases h; trivial
  | .number .., _, h => by
    obtain ⟨n, -, rfl⟩ := Fallible.map_eq_ok_iff.1 h
    trivial
  | .string .., _, h => by
    obtain ⟨s, -, rfl⟩ := Fallible.map_eq_ok_iff.1 h
    trivial
  | .array _ _ items close, _, h => by
    obtain ⟨-, -, h⟩ := Fallible.bind_eq_ok_iff.1 h
    obtain ⟨vs, hvs, h⟩ := Fallible.bind_eq_ok_iff.1 h
    cases close with
    | faulty => cases h
    | closed =>
      cases h
      exact normalItems_of_jsonItems items hvs
  | .object _ _ entries close, _, h => by
    obtain ⟨-, -, h⟩ := Fallible.bind_eq_ok_iff.1 h
    obtain ⟨vs, hvs, h⟩ := Fallible.bind_eq_ok_iff.1 h
    cases close with
    | faulty => cases h
    | closed =>
      cases h
      have hnormal := Json.normalFields_iff.1 (normalFields_of_jsonEntries entries hvs)
      exact ⟨Fields.ordered_ofEntries vs,
        Json.normalFields_iff.2 fun e he => hnormal e (Fields.mem_ofEntries he)⟩
  | .broken _, _, h => by cases h

theorem normalItems_of_jsonItems : ∀ (items : List (Place × Document)) {vs : List Json},
    jsonItems items = .ok vs → Json.NormalItems vs
  | [], _, h => by cases h; trivial
  | (_, d) :: rest, _, h => by
    obtain ⟨v, hv, h⟩ := Fallible.bind_eq_ok_iff.1 h
    obtain ⟨vs, hvs, h⟩ := Fallible.bind_eq_ok_iff.1 h
    cases h
    exact ⟨normal_of_json d hv, normalItems_of_jsonItems rest hvs⟩

theorem normalFields_of_jsonEntries : ∀ (entries : List (Entry Document))
    {vs : List (String × Json)}, jsonEntries entries = .ok vs → Json.NormalFields vs
  | [], _, h => by cases h; trivial
  | ⟨_, _, d⟩ :: rest, _, h => by
    obtain ⟨k, -, h⟩ := Fallible.bind_eq_ok_iff.1 h
    obtain ⟨v, hv, h⟩ := Fallible.bind_eq_ok_iff.1 h
    obtain ⟨vs, hvs, h⟩ := Fallible.bind_eq_ok_iff.1 h
    cases h
    exact ⟨normal_of_json d hv, normalFields_of_jsonEntries rest hvs⟩

end

end Decoder
end KitchenFlow
