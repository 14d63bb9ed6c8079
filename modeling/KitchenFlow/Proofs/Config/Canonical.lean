import KitchenFlow.Proofs.Config.Acceptance

/-!
# Normal forms are canonical

To bring a configuration into its normal form settles it: whatever a field becomes becomes itself
when it is brought into form again. A number stays a number, a text that was a number stays a text,
an option keeps its spelling, and what was left out is still not there. So a normal form is its own
normal form, and it may be kept in place of the configuration that it was made from.

    FieldSpec.Becomes.self         what a field becomes becomes itself
    NodeKind.Canonical             what is in a normal form
    Registry.normalise_canonical   a normal form is canonical, and its own normal form
-/

namespace KitchenFlow

open Config

namespace FieldSpec

variable {spec : FieldSpec} {u v : Option Json}

/-- The options of a choice are not blank and have no blanks around them. -/
def Trimmed (spec : FieldSpec) : Prop :=
  ∀ o ∈ spec.options, Text.isBlank o = false ∧ Text.trim o = o

variable [UrlReader]

/-- What a field becomes becomes itself. -/
theorem Becomes.self (htrimmed : spec.Trimmed) (h : spec.Becomes u v) : spec.Becomes v v := by
  cases h with
  | absent hoptional | null hoptional | blank _ _ _ hoptional => exact .absent hoptional
  | @number _ x htype _ hfinite hzero => exact .number htype (.number (.float x)) hfinite hzero
  | boolean htype => exact .boolean htype
  | @option _ _ o htype _ _ hmem _ =>
    obtain ⟨hblank, htrim⟩ := htrimmed o hmem
    refine .option htype (.string o) hblank hmem ?_
    rw [htrim, Text.sameLetters_iff]
  | @text _ text htype hdropdown _ hblank hurl =>
    exact .text htype hdropdown (.string text) hblank hurl

/-- The only numbers that fields become are finite and not negative. -/
theorem Becomes.exists_float {n : JsonNumber} (h : spec.Becomes u (some (.number n))) :
    ∃ x, n = .float x ∧ x.isFinite = true ∧ Binary64.zero.ble x = true := by
  cases h with
  | number _ _ hfinite hzero => exact ⟨_, rfl, hfinite, hzero⟩

end FieldSpec

theorem NodeKind.trimmed_of_mem_schema {k : NodeKind} {spec : FieldSpec} (h : spec ∈ k.schema) :
    spec.Trimmed := by
  have hall : ∀ k : NodeKind, ∀ spec ∈ k.schema, ∀ o ∈ spec.options,
      Text.isBlank o = false ∧ Text.trim o = o := by
    intro k
    cases k <;> decide +kernel
  exact hall k spec h

/-- What is in a normal form: declared keys only, each once and in ascending order, choices in the
spelling of their options, numbers that are finite and not negative, and all that is required. -/
structure NodeKind.Canonical (k : NodeKind) (fields : Fields) : Prop where
  ordered : fields.Ordered
  declared : ∀ e ∈ fields, e.1 ∈ k.schema.map FieldSpec.key
  chosen : ∀ spec ∈ k.schema, spec.type = .dropdown → ∀ v ∈ fields.get? spec.key,
    ∃ o ∈ spec.options, v = .string o
  numbers : ∀ e ∈ fields, ∀ n, e.2 = .number n →
    ∃ x, n = .float x ∧ x.isFinite = true ∧ Binary64.zero.ble x = true
  required : ∀ spec ∈ k.schema, spec.required = true → fields.get? spec.key ≠ none

namespace NodeKind

variable [UrlReader] {k : NodeKind} {raw fields : Fields}

/-- What fits a kind is canonical. -/
theorem Fits.canonical (h : k.Fits fields) : k.Canonical fields := by
  refine ⟨h.ordered, h.declared, fun spec hspec htype v hv => ?_, fun e he n hn => ?_,
    fun spec hspec hrequired => ?_⟩
  · obtain ⟨u, hu⟩ := h.becomes spec hspec
    have htext : spec.type.IsText := by
      rw [htype]
      decide
    obtain ⟨s, hs, hoptions⟩ := hu.eq_map_string htext
    rw [hs] at hv
    obtain ⟨o, rfl, rfl⟩ := Option.map_eq_some_iff.1 hv
    exact ⟨o, hoptions htype o rfl, rfl⟩
  · obtain ⟨spec, hspec, hkey⟩ := List.mem_map.1 (h.declared e he)
    obtain ⟨u, hu⟩ := h.becomes spec hspec
    rw [hkey, Fields.get?_of_mem h.ordered.nodup he, hn] at hu
    exact hu.exists_float
  · obtain ⟨u, hu⟩ := h.becomes spec hspec
    exact hu.ne_none hrequired

/-- A normal form is its own normal form. -/
theorem normalise_normalise (h : normalise raw k.schema = .ok fields) :
    normalise fields k.schema = .ok fields := by
  rw [← h]
  refine normalise_congr fun spec hspec => ?_
  have hsound := sound_of_mem_schema hspec
  have hfield := get?_normalise h k.schema_keys_nodup hspec
  have hself := ((normalField_eq_ok_iff hsound).1 hfield).self (trimmed_of_mem_schema hspec)
  rw [hfield, normalField_of_becomes hsound hself]

end NodeKind

namespace Registry

/-- By the fields that are built in for a registered kind, the normal form of a configuration is
canonical, and it is its own normal form. So both are accepted, as the same configuration of a
node. -/
theorem normalise_canonical [UrlReader] {r : Registry} {k : NodeKind}
    (hk : r.schema? k = some k.schema) {raw fields : Fields}
    (h : normalise raw k.schema = .ok fields) :
    k.Canonical fields ∧ normalise fields k.schema = .ok fields ∧
      ∀ id, ∃ c, r.configure id k raw = .ok c ∧ r.configure id k fields = .ok c := by
  have hself := NodeKind.normalise_normalise h
  refine ⟨(NodeKind.fits_of_normalise h).canonical, hself, fun id => ?_⟩
  obtain ⟨c, hc, -⟩ := NodeConfig.exists_ofJson h
  exact ⟨c, configure_of_normalise hk h hc, configure_of_normalise hk hself hc⟩

/-- A message to a number, with a channel that is not spelt as its option, comes to the same as its
normal form. -/
theorem normalise_canonical_notification :
    builtin.schema? .sendNotification = some NodeKind.sendNotification.schema ∧
      normalise Example.looseNotification NodeKind.sendNotification.schema =
        .ok [("channel", .string "sms"), ("message", .string "Use the milk"),
          ("recipient", .string "555")] ∧
      ∃ c, builtin.configure "notify" .sendNotification Example.looseNotification = .ok c ∧
        builtin.configure "notify" .sendNotification
          [("channel", .string "sms"), ("message", .string "Use the milk"),
            ("recipient", .string "555")] = .ok c := by
  have hk := schema?_builtin .sendNotification
  have hnormal : normalise Example.looseNotification NodeKind.sendNotification.schema =
      .ok [("channel", .string "sms"), ("message", .string "Use the milk"),
        ("recipient", .string "555")] := rfl
  obtain ⟨-, -, hsame⟩ := normalise_canonical hk hnormal
  exact ⟨hk, hnormal, hsame "notify"⟩

end Registry
end KitchenFlow
