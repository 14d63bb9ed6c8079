import KitchenFlow.Proofs.Config.Agreement

/-!
# Accepted configurations

Whether a configuration is accepted is decided field by field: each declared field has to follow its
own rule, and the first one in the order of the schema that does not is at fault. Nothing else
counts, neither what is not declared nor how a field that may be left out is left out:

    FieldSpec.Accepts               what a field may hold
    FieldSpec.Vacant                what a field holds that is left out
    FieldSpec.Agree                 values that come to the same for a field
    Registry.configure_fieldwise    a configuration is checked field by field
-/

namespace KitchenFlow

open Config

namespace FieldSpec

/-- A field may hold this by its rule. -/
def Accepts [UrlReader] (spec : FieldSpec) (v : Option Json) : Prop := ∃ w, spec.Becomes v w

/-- A field is left out if it is absent or null, and a text also if it is blank. -/
inductive Vacant (spec : FieldSpec) : Option Json → Prop where
  | absent : Vacant spec none
  | null : Vacant spec (some .null)
  | blank {s} : spec.type.IsText → Text.isBlank s = true → Vacant spec (some (.string s))

/-- Values that come to the same for a field: equal ones, and any two that leave it out if it need
not be there. -/
inductive Agree (spec : FieldSpec) : Option Json → Option Json → Prop where
  | refl {v} : Agree spec v v
  | vacant {v v'} : spec.required = false → spec.Vacant v → spec.Vacant v' → Agree spec v v'

variable [UrlReader] {spec : FieldSpec} {v v' : Option Json}

/-- What is left out has no place in the normal form. -/
theorem Vacant.becomes (h : spec.Vacant v) (hrequired : spec.required = false) :
    spec.Becomes v none := by
  cases h with
  | absent => exact .absent hrequired
  | null => exact .null hrequired
  | blank htype hblank => exact .blank htype (.string _) hblank hrequired

theorem Agree.normalField_eq (hspec : spec.Sound) (h : spec.Agree v v') :
    normalField spec v' = normalField spec v := by
  cases h with
  | refl => rfl
  | vacant hrequired hv hv' =>
    rw [normalField_of_becomes hspec (hv.becomes hrequired),
      normalField_of_becomes hspec (hv'.becomes hrequired)]

theorem exists_normalField_eq_ok_iff (hspec : spec.Sound) :
    (∃ w, normalField spec v = .ok w) ↔ spec.Accepts v :=
  exists_congr fun _ => normalField_eq_ok_iff hspec

theorem not_accepts_of_normalField {fault : FieldFault} (hspec : spec.Sound)
    (h : normalField spec v = .error fault) : ¬ spec.Accepts v := by
  intro haccepts
  obtain ⟨w, hw⟩ := (exists_normalField_eq_ok_iff hspec).2 haccepts
  rw [h] at hw
  cases hw

end FieldSpec

namespace Registry

variable [UrlReader] {r : Registry} {id : String} {k : NodeKind} {raw raw' : Fields}

/-- Raw configurations with one normal form are checked alike. -/
theorem configure_congr (hk : r.schema? k = some k.schema)
    (h : normalise raw' k.schema = normalise raw k.schema) :
    r.configure id k raw' = r.configure id k raw := by
  rw [configure_of_schema? hk, configure_of_schema? hk, NodeConfig.ofRaw, NodeConfig.ofRaw, h]

/-- A configuration is accepted if each of its fields is. -/
theorem exists_configure_eq_ok_iff (hk : r.schema? k = some k.schema) (id : String) (raw : Fields) :
    (∃ c, r.configure id k raw = .ok c) ↔ ∀ spec ∈ k.schema, spec.Accepts (raw.get? spec.key) := by
  have hfields : (∀ spec ∈ k.schema, spec.Accepts (raw.get? spec.key)) ↔
      ∃ fields, normalise raw k.schema = .ok fields := by
    rw [exists_normalise_eq_ok_iff]
    exact forall₂_congr fun _ hspec =>
      (FieldSpec.exists_normalField_eq_ok_iff (NodeKind.sound_of_mem_schema hspec)).symm
  rw [hfields]
  constructor
  · rintro ⟨c, hc⟩
    rcases hnormal : normalise raw k.schema with ⟨key, fault⟩ | fields
    · rw [(configure_eq_error_iff_normalise hk).2 ⟨key, fault, hnormal, rfl⟩] at hc
      cases hc
    · exact ⟨fields, rfl⟩
  · rintro ⟨fields, hfields⟩
    obtain ⟨c, hc, -⟩ := NodeConfig.exists_ofJson hfields
    exact ⟨c, configure_of_normalise hk hfields hc⟩

/-- A configuration that is refused is so for the first field that is not accepted. -/
theorem exists_fault_of_configure {e : FlowError} (hk : r.schema? k = some k.schema)
    (h : r.configure id k raw = .error e) :
    ∃ before spec after fault, k.schema = before ++ spec :: after ∧
      (∀ earlier ∈ before, earlier.Accepts (raw.get? earlier.key)) ∧
      ¬ spec.Accepts (raw.get? spec.key) ∧
      normalField spec (raw.get? spec.key) = .error fault ∧ e = .config ⟨id, spec.key, fault⟩ := by
  obtain ⟨key, fault, hnormal, rfl⟩ := (configure_eq_error_iff_normalise hk).1 h
  obtain ⟨before, spec, after, hschema, hbefore, hspec, rfl⟩ := normalise_eq_error_iff.1 hnormal
  have hsound : ∀ other ∈ before ++ spec :: after, other.Sound := by
    intro other hother
    rw [← hschema] at hother
    exact NodeKind.sound_of_mem_schema hother
  refine ⟨before, spec, after, fault, hschema, fun earlier hearlier => ?_, ?_, hspec, rfl⟩
  · have hearlierSound := hsound earlier (List.mem_append_left _ hearlier)
    exact (FieldSpec.exists_normalField_eq_ok_iff hearlierSound).1 (hbefore earlier hearlier)
  · have hspecSound := hsound spec (List.mem_append_right _ List.mem_cons_self)
    exact FieldSpec.not_accepts_of_normalField hspecSound hspec

/-- By the fields that are built in for its kind, a configuration is accepted if each declared field
follows its rule. If it is refused, this is
for the first field of the schema that does not. What is not declared, and the way in which a field
is left out, makes no difference. -/
theorem configure_fieldwise (hk : r.schema? k = some k.schema) (id : String) (raw : Fields) :
    ((∃ c, r.configure id k raw = .ok c) ↔
      ∀ spec ∈ k.schema, spec.Accepts (raw.get? spec.key)) ∧
    ((¬ ∀ spec ∈ k.schema, spec.Accepts (raw.get? spec.key)) →
      ∃ before spec after fault, k.schema = before ++ spec :: after ∧
        (∀ earlier ∈ before, earlier.Accepts (raw.get? earlier.key)) ∧
        ¬ spec.Accepts (raw.get? spec.key) ∧
        normalField spec (raw.get? spec.key) = .error fault ∧
        r.configure id k raw = .error (.config ⟨id, spec.key, fault⟩)) ∧
    ∀ raw' : Fields, (∀ spec ∈ k.schema, spec.Agree (raw.get? spec.key) (raw'.get? spec.key)) →
      r.configure id k raw' = r.configure id k raw := by
  have hok := exists_configure_eq_ok_iff hk id raw
  refine ⟨hok, fun hnot => ?_, fun raw' hagree => ?_⟩
  · rcases hc : r.configure id k raw with e | c
    · obtain ⟨before, spec, after, fault, hschema, hbefore, hspec, hfault, rfl⟩ :=
        exists_fault_of_configure hk hc
      exact ⟨before, spec, after, fault, hschema, hbefore, hspec, hfault, rfl⟩
    · exact (hnot (hok.1 ⟨c, hc⟩)).elim
  · refine configure_congr hk (normalise_congr fun spec hspec => ?_)
    exact (hagree spec hspec).normalField_eq (NodeKind.sound_of_mem_schema hspec)

end Registry

/-! ## A trigger for the stock -/

namespace Example

/-- A status that is not written as its option, a threshold that is a text, and a colour that no
schema knows. -/
def looseStock : Fields :=
  [("color", .string "red"), ("status", .string " Expired "), ("threshold", .string "2 ")]

/-- The same without the colour, and with a category that is blank instead of none. -/
def blankStock : Fields :=
  [("filterCategory", .string " "), ("status", .string " Expired "), ("threshold", .string "2 ")]

/-- A category that is no text, and after it a threshold that is negative. -/
def badStock : Fields :=
  [("filterCategory", .array []), ("status", .string "expired"), ("threshold", .number (.int (-1)))]

end Example

namespace Registry

open Example (looseStock blankStock badStock)

/-- The first is accepted, the second comes to the same, and the third is refused for its
category. -/
theorem configure_fieldwise_stock :
    builtin.schema? .inventoryStatusTrigger = some NodeKind.inventoryStatusTrigger.schema ∧
      (∃ c, builtin.configure "stock" .inventoryStatusTrigger looseStock = .ok c) ∧
      builtin.configure "stock" .inventoryStatusTrigger blankStock =
        builtin.configure "stock" .inventoryStatusTrigger looseStock ∧
      builtin.configure "stock" .inventoryStatusTrigger badStock =
        .error (.config ⟨"stock", "filterCategory", .notText (.array [])⟩) ∧
      ¬ ∀ spec ∈ NodeKind.inventoryStatusTrigger.schema,
        spec.Accepts (badStock.get? spec.key) := by
  have hk := schema?_builtin .inventoryStatusTrigger
  obtain ⟨haccepted, -, hsame⟩ := configure_fieldwise hk "stock" looseStock
  obtain ⟨hbad, -, -⟩ := configure_fieldwise hk "stock" badStock
  have herror : builtin.configure "stock" .inventoryStatusTrigger badStock =
      .error (.config ⟨"stock", "filterCategory", .notText (.array [])⟩) := rfl
  refine ⟨hk, haccepted.2 ?_, hsame blankStock ?_, herror, fun hall => ?_⟩
  · simp only [NodeKind.schema, List.forall_mem_cons, List.not_mem_nil, false_implies, implies_true,
      and_true]
    refine ⟨⟨some (.string "expired"), ?_⟩, ⟨none, .absent rfl⟩, ?_⟩
    · exact .option rfl (.string _) (by decide) (by decide) rfl
    · have htwo : Binary64.ofText? (Text.trim "2 ") = some (JsonNumber.int 2).toBinary64 := by
        decide +kernel
      exact ⟨_, .number rfl (.numeral htwo) (by decide +kernel) (by decide +kernel)⟩
  · simp only [NodeKind.schema, List.forall_mem_cons, List.not_mem_nil, false_implies, implies_true,
      and_true]
    exact ⟨.refl, .vacant rfl .absent (.blank (by decide) (by decide)), .refl⟩
  · obtain ⟨c, hc⟩ := hbad.2 hall
    rw [herror] at hc
    cases hc

end Registry
end KitchenFlow
