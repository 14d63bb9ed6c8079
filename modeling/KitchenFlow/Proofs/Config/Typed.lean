import KitchenFlow.Config.Typed
import KitchenFlow.Proofs.Fallible

/-!
# What records and configurations are read as

A record is built from its fields by a function, so whatever holds of all values of that function
holds of everything the record is read as. The kind of a configuration is such a property: a
configuration read for a kind is of that kind.
-/

namespace KitchenFlow

open Fallible

namespace Record

variable {α β : Type}

/-- Everything that a record is read as has a property. -/
def Yields (r : Record α) (P : α → Prop) : Prop :=
  ∀ slot absent a, r.build slot absent = .ok a → P a

theorem Yields.map {f : α → β} {x : Record α} {P : β → Prop} (h : ∀ a, P (f a)) :
    (f <$> x).Yields P := by
  intro slot absent b hb
  obtain ⟨a, -, rfl⟩ := map_eq_ok_iff.1 hb
  exact h a

theorem Yields.seq {f : Record (α → β)} {x : Record α} {P : β → Prop}
    (h : f.Yields fun g => ∀ a, P (g a)) : (f <*> x).Yields P := by
  intro slot absent b hb
  obtain ⟨g, hg, hb⟩ := bind_eq_ok_iff.1 hb
  obtain ⟨a, -, hb⟩ := bind_eq_ok_iff.1 hb
  cases hb
  exact h slot absent g hg a

/-- What is read from a document was built from fields. -/
theorem Yields.decodeAs {r : Record α} {P : α → Prop} (h : r.Yields P) {what surplus : String}
    {d : Document} {a : α} (hd : r.decodeAs what surplus d = .ok a) : P a := by
  cases d with
  | object start deep entries close =>
    obtain ⟨-, -, hd⟩ := bind_eq_ok_iff.1 hd
    obtain ⟨found, -, hd⟩ := bind_eq_ok_iff.1 hd
    cases close with
    | closed stop => exact h _ _ a hd
    | faulty more finish rest => cases hd
  | array start deep items close =>
    obtain ⟨-, -, hd⟩ := bind_eq_ok_iff.1 hd
    obtain ⟨found, -, hd⟩ := bind_eq_ok_iff.1 hd
    cases close with
    | closed stop =>
      obtain ⟨b, hb, hd⟩ := bind_eq_ok_iff.1 hd
      obtain ⟨-, -, hd⟩ := bind_eq_ok_iff.1 hd
      cases hd
      exact h _ _ a hb
    | faulty more finish rest =>
      dsimp only at hd
      split at hd
      · cases hd
      · obtain ⟨b, hb, hd⟩ := bind_eq_ok_iff.1 hd
        obtain ⟨-, -, hd⟩ := bind_eq_ok_iff.1 hd
        cases hd
        exact h _ _ a hb
  | null | bool | number | string | broken => cases hd

end Record

namespace NodeConfig

theorem kind_of_decoder {k : NodeKind} {d : Document} {c : NodeConfig}
    (h : decoder k d = .ok c) : c.kind = k := by
  have of {r : Record NodeConfig} {name : String} (hr : r.Yields fun c => c.kind = k)
      (h : r.decode name d = .ok c) : c.kind = k := hr.decodeAs h
  -- the record of a kind ends in a constructor, applied to as many fields as it has
  cases k with
  | expirationTrigger | updateData => exact of (.seq (.map fun _ _ => rfl)) h
  | inventoryStatusTrigger | conditionalBranch | generateRecipe | webhookDelivery
  | partnerIntegration => exact of (.seq (.seq (.map fun _ _ _ => rfl))) h
  | sendNotification => exact of (.seq (.seq (.seq (.seq (.map fun _ _ _ _ _ => rfl))))) h

variable [UrlReader]

/-- A configuration read for a kind is of that kind. -/
theorem kind_of_ofRaw {k : NodeKind} {specs : List FieldSpec} {raw : Fields} {c : NodeConfig}
    (h : ofRaw k specs raw = .ok c) : c.kind = k := by
  obtain ⟨fields, -, h⟩ := bind_eq_ok_iff.1 h
  split at h
  · next hd =>
    cases h
    exact kind_of_decoder hd
  · cases h

/-- A raw configuration is at fault in one of its fields, or as a whole if what they become is not
read. -/
theorem ofRaw_eq_error_iff {k : NodeKind} {specs : List FieldSpec} {raw : Fields} {key : String}
    {fault : FieldFault} :
    ofRaw k specs raw = .error (key, fault) ↔
      Config.normalise raw specs = .error (key, fault) ∨
        ∃ fields e, Config.normalise raw specs = .ok fields ∧
          Decoder.ofJson (decoder k) (.object fields) = .error e ∧
          key = wholeConfig ∧ fault = .untyped e := by
  rw [ofRaw, bind_eq_error_iff]
  refine or_congr_right (exists_congr fun fields => ?_)
  rw [exists_and_left]
  refine and_congr_right fun _ => ?_
  cases Decoder.ofJson (decoder k) (.object fields) <;> simp [eq_comm]

end NodeConfig

namespace Registry

variable [UrlReader] {r : Registry} {id : String} {k : NodeKind} {specs : List FieldSpec}
  {raw : Fields} {c : NodeConfig}

/-- A configuration is read by the fields that are registered for its kind. -/
theorem configure_of_schema? (hk : r.schema? k = some specs) :
    r.configure id k raw =
      (NodeConfig.ofRaw k specs raw).mapError fun (field, fault) => .config ⟨id, field, fault⟩ := by
  rw [configure, hk]

theorem configure_eq_ok_iff :
    r.configure id k raw = .ok c ↔
      ∃ specs, r.schema? k = some specs ∧ NodeConfig.ofRaw k specs raw = .ok c := by
  rcases hk : r.schema? k with - | specs
  · simp [configure, hk]
  · rw [configure_of_schema? hk]
    simp only [Option.some.injEq, exists_eq_left']
    cases NodeConfig.ofRaw k specs raw <;> simp [Except.mapError]

theorem kind_of_configure (h : r.configure id k raw = .ok c) : c.kind = k := by
  obtain ⟨specs, -, hc⟩ := configure_eq_ok_iff.1 h
  exact NodeConfig.kind_of_ofRaw hc

/-- A configuration of a kind in use is refused for one of its fields, or as a whole. -/
theorem configure_eq_error_iff (hk : r.schema? k = some specs) {err : FlowError} :
    r.configure id k raw = .error err ↔
      ∃ field fault, NodeConfig.ofRaw k specs raw = .error (field, fault) ∧
        err = .config ⟨id, field, fault⟩ := by
  rw [configure_of_schema? hk]
  rcases NodeConfig.ofRaw k specs raw with ⟨field, fault⟩ | c <;> simp [Except.mapError, eq_comm]

end Registry
end KitchenFlow
