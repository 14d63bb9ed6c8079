import KitchenFlow.Proofs.Config.Rules
import KitchenFlow.Proofs.Config.Typed
import KitchenFlow.Proofs.Json.Decoding

/-!
# Schemas and types agree

What the fields of a kind may become is just what its type is read from: under each key there is a
value of the type that the reader wants, and what the reader insists on is there. So every normal
form is read, and what it is read as holds the values of the normal form:

    NodeKind.Fits                           the normal forms of a kind
    NodeConfig.values                       what a configuration holds, key by key
    NodeConfig.exists_reads                 every normal form is read as what it holds
    NodeConfig.ofRaw_schema_eq_error_iff    at fault is only what has no normal form
    Registry.configure_normalised           so what has a normal form is accepted

All this is said of the fields that are built in. A registry may hold others, and then what is
missing or of another type is found when the normal form is read.
-/

namespace KitchenFlow

open Config Fallible

/-! ## What a field can become -/

namespace FieldSpec

variable [UrlReader] {spec : FieldSpec} {u v : Option Json}

/-- What has to be there is not left out. -/
theorem Becomes.ne_none (h : spec.Becomes u v) (hrequired : spec.required = true) : v ≠ none := by
  cases h with
  | absent hoptional | null hoptional | blank _ _ _ hoptional =>
    rw [hrequired] at hoptional
    cases hoptional
  | number | boolean | option | text => exact Option.some_ne_none _

theorem Becomes.eq_map_number (h : spec.Becomes u v) (htype : spec.type = .number) :
    ∃ x : Option Binary64, v = x.map fun x => .number (.float x) := by
  cases h with
  | absent | null | blank => exact ⟨none, rfl⟩
  | @number _ x => exact ⟨some x, rfl⟩
  | boolean hother | option hother =>
    rw [htype] at hother
    cases hother
  | text htext => exact (htext.1 htype).elim

theorem Becomes.eq_map_bool (h : spec.Becomes u v) (htype : spec.type = .boolean) :
    ∃ b : Option Bool, v = b.map .bool := by
  cases h with
  | absent | null | blank => exact ⟨none, rfl⟩
  | @boolean b => exact ⟨some b, rfl⟩
  | number hother | option hother =>
    rw [htype] at hother
    cases hother
  | text htext => exact (htext.2 htype).elim

/-- A text field becomes text; a choice becomes one of its options. -/
theorem Becomes.eq_map_string (h : spec.Becomes u v) (htype : spec.type.IsText) :
    ∃ s : Option String, v = s.map .string ∧
      (spec.type = .dropdown → ∀ o ∈ s, o ∈ spec.options) := by
  cases h with
  | absent | null | blank => exact ⟨none, rfl, fun _ o ho => by cases ho⟩
  | @option _ _ o _ _ _ hmem =>
    refine ⟨some o, rfl, fun _ o ho => ?_⟩
    cases ho
    exact hmem
  | @text _ s _ hdropdown => exact ⟨some s, rfl, fun h => (hdropdown h).elim⟩
  | number hother => exact (htype.1 hother).elim
  | boolean hother => exact (htype.2 hother).elim

theorem Becomes.eq_some_number (h : spec.Becomes u v) (htype : spec.type = .number)
    (hrequired : spec.required = true) : ∃ x, v = some (.number (.float x)) := by
  obtain ⟨- | x, rfl⟩ := h.eq_map_number htype
  · exact (h.ne_none hrequired rfl).elim
  · exact ⟨x, rfl⟩

theorem Becomes.eq_some_string (h : spec.Becomes u v) (htype : spec.type.IsText)
    (hrequired : spec.required = true) :
    ∃ s, v = some (.string s) ∧ (spec.type = .dropdown → s ∈ spec.options) := by
  obtain ⟨- | s, rfl, hoptions⟩ := h.eq_map_string htype
  · exact (h.ne_none hrequired rfl).elim
  · exact ⟨s, rfl, fun hdropdown => hoptions hdropdown s rfl⟩

end FieldSpec

/-! ## The normal forms of a kind -/

/-- Fields that can be the normal form of a configuration of a kind. -/
structure NodeKind.Fits [UrlReader] (k : NodeKind) (fields : Fields) : Prop where
  ordered : fields.Ordered
  declared : ∀ e ∈ fields, e.1 ∈ k.schema.map FieldSpec.key
  becomes : ∀ spec ∈ k.schema, ∃ u, spec.Becomes u (fields.get? spec.key)

theorem NodeKind.fits_of_normalise [UrlReader] {k : NodeKind} {raw fields : Fields}
    (h : normalise raw k.schema = .ok fields) : k.Fits fields := by
  have hordered := ordered_normalise h
  refine ⟨hordered, fun e he => ?_, fun spec hspec => ?_⟩
  · by_contra hkey
    have hnone := get?_normalise_of_not_mem h hkey
    rw [Fields.get?_of_mem hordered.nodup he] at hnone
    cases hnone
  · have hfield := get?_normalise h k.schema_keys_nodup hspec
    exact ⟨_, (normalField_eq_ok_iff (NodeKind.sound_of_mem_schema hspec)).1 hfield⟩

namespace NodeConfig

/-- What a configuration holds: the value under each key as it stands in the normal form, and none
where there is nothing. -/
def values : NodeConfig → List (String × Option Json)
  | .expirationTrigger c =>
    [("timeOffset", some (.number (.float c.timeOffset))),
      ("filterCategory", c.filterCategory.map .string)]
  | .inventoryStatusTrigger c =>
    [("status", some (.string c.status)), ("filterCategory", c.filterCategory.map .string),
      ("threshold", c.threshold.map fun x => .number (.float x))]
  | .conditionalBranch c =>
    [("checkField", some (.string c.checkField)), ("operator", some (.string c.operator.sign)),
      ("checkValue", some (.string c.checkValue))]
  | .updateData c =>
    [("targetField", some (.string c.targetField)), ("value", some (.string c.value))]
  | .generateRecipe c =>
    [("prompt", c.prompt.map .string), ("servings", c.servings.map fun x => .number (.float x)),
      ("credentialId", c.credentialId.map .string)]
  | .sendNotification c =>
    [("channel", some (.string c.channel.name)), ("recipient", some (.string c.recipient)),
      ("subject", c.subject.map .string), ("message", some (.string c.message)),
      ("credentialId", c.credentialId.map .string)]
  | .webhookDelivery c =>
    [("targetUrl", some (.string c.targetUrl)), ("method", c.method.map .string),
      ("includePayload", c.includePayload.map .bool)]
  | .partnerIntegration c =>
    [("partner", some (.string c.partner)), ("action", some (.string c.action)),
      ("credentialId", some (.string c.credentialId))]

end NodeConfig

/-! ## Reading a normal form -/

namespace Decoder

theorem reads_operator (o : Operator) :
    NodeConfig.operatorDecoder.Reads (.string o.sign) o := by
  intro doc hdoc
  rw [NodeConfig.operatorDecoder, reads_string o.sign hdoc]
  dsimp only [bind, Except.bind]
  rw [Operator.parse, Operator.ofSign?_sign]
  rfl

theorem reads_channel (ch : Channel) : NodeConfig.channelDecoder.Reads (.string ch.name) ch :=
  reads_variant (by cases ch <;> rfl)

end Decoder

namespace Record

open Decoder (reads_string reads_binary64 reads_bool)

variable {name : String} {fields : Fields}

theorem takes_optional_string {s : Option String} (hv : fields.get? name = s.map .string) :
    (optional name Decoder.string).Takes fields s :=
  takes_optional hv fun s _ => ⟨reads_string s, rfl⟩

theorem takes_optional_number {x : Option Binary64}
    (hv : fields.get? name = x.map fun x => .number (.float x)) :
    (optional name Decoder.binary64).Takes fields x :=
  takes_optional hv fun _ _ => ⟨reads_binary64 rfl, rfl⟩

theorem takes_optional_bool {b : Option Bool} (hv : fields.get? name = b.map .bool) :
    (optional name Decoder.bool).Takes fields b :=
  takes_optional hv fun b _ => ⟨reads_bool b, rfl⟩

end Record

namespace NodeConfig

open Record (takes_required takes_optional_string takes_optional_number takes_optional_bool
  Takes.reads_decode)
open Decoder (Reads reads_string reads_binary64 reads_operator reads_channel)

/-- The options for a channel are the names of the channels. -/
theorem exists_channel {name : String} (h : name ∈ Schema.channels) :
    ∃ ch : Channel, name = ch.name := by
  simp only [Schema.channels, List.mem_cons, List.not_mem_nil, or_false] at h
  rcases h with rfl | rfl
  · exact ⟨.email, rfl⟩
  · exact ⟨.sms, rfl⟩

/-- Fields of a kind are read as a configuration that holds what stands under each key. -/
def ReadInFull (k : NodeKind) (fields : Fields) : Prop :=
  ∃ c, Reads (decoder k) (.object fields) c ∧
    c.values = k.schema.map fun spec => (spec.key, fields.get? spec.key)

section Kinds

/-! Kind by kind: what stands under each key, and from it the configuration. -/

variable [UrlReader] {fields : Fields}

theorem readInFull_expirationTrigger (h : NodeKind.expirationTrigger.Fits fields) :
    ReadInFull .expirationTrigger fields := by
  have hbecomes := h.becomes
  simp only [NodeKind.schema, List.forall_mem_cons, List.not_mem_nil, false_implies, implies_true,
    and_true] at hbecomes
  obtain ⟨⟨_, hoffset⟩, _, hcategory⟩ := hbecomes
  obtain ⟨offset, hoffset⟩ := hoffset.eq_some_number rfl rfl
  obtain ⟨category, hcategory, -⟩ := hcategory.eq_map_string (by decide)
  refine ⟨.expirationTrigger ⟨offset, category⟩, Takes.reads_decode ?_ _ h.ordered h.declared, ?_⟩
  · exact ((takes_required hoffset (reads_binary64 rfl)).map _).seq
      (takes_optional_string hcategory)
  · simp only [NodeKind.schema, List.map_cons, List.map_nil, hoffset, hcategory]
    rfl

theorem readInFull_inventoryStatusTrigger (h : NodeKind.inventoryStatusTrigger.Fits fields) :
    ReadInFull .inventoryStatusTrigger fields := by
  have hbecomes := h.becomes
  simp only [NodeKind.schema, List.forall_mem_cons, List.not_mem_nil, false_implies, implies_true,
    and_true] at hbecomes
  obtain ⟨⟨_, hstatus⟩, ⟨_, hcategory⟩, _, hthreshold⟩ := hbecomes
  obtain ⟨status, hstatus, -⟩ := hstatus.eq_some_string (by decide) rfl
  obtain ⟨category, hcategory, -⟩ := hcategory.eq_map_string (by decide)
  obtain ⟨threshold, hthreshold⟩ := hthreshold.eq_map_number rfl
  refine ⟨.inventoryStatusTrigger ⟨status, category, threshold⟩,
    Takes.reads_decode ?_ _ h.ordered h.declared, ?_⟩
  · exact (((takes_required hstatus (reads_string status)).map _).seq
      (takes_optional_string hcategory)).seq
      (takes_optional_number hthreshold)
  · simp only [NodeKind.schema, List.map_cons, List.map_nil, hstatus, hcategory, hthreshold]
    rfl

theorem readInFull_conditionalBranch (h : NodeKind.conditionalBranch.Fits fields) :
    ReadInFull .conditionalBranch fields := by
  have hbecomes := h.becomes
  simp only [NodeKind.schema, List.forall_mem_cons, List.not_mem_nil, false_implies, implies_true,
    and_true] at hbecomes
  obtain ⟨⟨_, hfield⟩, ⟨_, hoperator⟩, _, hvalue⟩ := hbecomes
  obtain ⟨field, hfield, -⟩ := hfield.eq_some_string (by decide) rfl
  obtain ⟨sign, hoperator, hsign⟩ := hoperator.eq_some_string (by decide) rfl
  obtain ⟨value, hvalue, -⟩ := hvalue.eq_some_string (by decide) rfl
  obtain ⟨operator, -, rfl⟩ := List.mem_map.1 (hsign rfl)
  refine ⟨.conditionalBranch ⟨field, operator, value⟩,
    Takes.reads_decode ?_ _ h.ordered h.declared, ?_⟩
  · exact (((takes_required hfield (reads_string field)).map _).seq
      (takes_required hoperator (reads_operator operator))).seq
      (takes_required hvalue (reads_string value))
  · simp only [NodeKind.schema, List.map_cons, List.map_nil, hfield, hoperator, hvalue]
    rfl

theorem readInFull_updateData (h : NodeKind.updateData.Fits fields) :
    ReadInFull .updateData fields := by
  have hbecomes := h.becomes
  simp only [NodeKind.schema, List.forall_mem_cons, List.not_mem_nil, false_implies, implies_true,
    and_true] at hbecomes
  obtain ⟨⟨_, hfield⟩, _, hvalue⟩ := hbecomes
  obtain ⟨field, hfield, -⟩ := hfield.eq_some_string (by decide) rfl
  obtain ⟨value, hvalue, -⟩ := hvalue.eq_some_string (by decide) rfl
  refine ⟨.updateData ⟨field, value⟩, Takes.reads_decode ?_ _ h.ordered h.declared, ?_⟩
  · exact ((takes_required hfield (reads_string field)).map _).seq
      (takes_required hvalue (reads_string value))
  · simp only [NodeKind.schema, List.map_cons, List.map_nil, hfield, hvalue]
    rfl

theorem readInFull_generateRecipe (h : NodeKind.generateRecipe.Fits fields) :
    ReadInFull .generateRecipe fields := by
  have hbecomes := h.becomes
  simp only [NodeKind.schema, List.forall_mem_cons, List.not_mem_nil, false_implies, implies_true,
    and_true] at hbecomes
  obtain ⟨⟨_, hprompt⟩, ⟨_, hservings⟩, _, hcredential⟩ := hbecomes
  obtain ⟨prompt, hprompt, -⟩ := hprompt.eq_map_string (by decide)
  obtain ⟨servings, hservings⟩ := hservings.eq_map_number rfl
  obtain ⟨credential, hcredential, -⟩ := hcredential.eq_map_string (by decide)
  refine ⟨.generateRecipe ⟨prompt, servings, credential⟩,
    Takes.reads_decode ?_ _ h.ordered h.declared, ?_⟩
  · exact (((takes_optional_string hprompt).map _).seq
      (takes_optional_number hservings)).seq
      (takes_optional_string hcredential)
  · simp only [NodeKind.schema, List.map_cons, List.map_nil, hprompt, hservings, hcredential]
    rfl

theorem readInFull_sendNotification (h : NodeKind.sendNotification.Fits fields) :
    ReadInFull .sendNotification fields := by
  have hbecomes := h.becomes
  simp only [NodeKind.schema, List.forall_mem_cons, List.not_mem_nil, false_implies, implies_true,
    and_true] at hbecomes
  obtain ⟨⟨_, hchannel⟩, ⟨_, hrecipient⟩, ⟨_, hsubject⟩, ⟨_, hmessage⟩, _, hcredential⟩ := hbecomes
  obtain ⟨name, hchannel, hname⟩ := hchannel.eq_some_string (by decide) rfl
  obtain ⟨recipient, hrecipient, -⟩ := hrecipient.eq_some_string (by decide) rfl
  obtain ⟨subject, hsubject, -⟩ := hsubject.eq_map_string (by decide)
  obtain ⟨message, hmessage, -⟩ := hmessage.eq_some_string (by decide) rfl
  obtain ⟨credential, hcredential, -⟩ := hcredential.eq_map_string (by decide)
  obtain ⟨channel, rfl⟩ := exists_channel (hname rfl)
  refine ⟨.sendNotification ⟨channel, recipient, subject, message, credential⟩,
    Takes.reads_decode ?_ _ h.ordered h.declared, ?_⟩
  · exact (((((takes_required hchannel (reads_channel channel)).map _).seq
      (takes_required hrecipient (reads_string recipient))).seq
      (takes_optional_string hsubject)).seq
      (takes_required hmessage (reads_string message))).seq
      (takes_optional_string hcredential)
  · simp only [NodeKind.schema, List.map_cons, List.map_nil, hchannel, hrecipient, hsubject,
      hmessage, hcredential]
    rfl

theorem readInFull_webhookDelivery (h : NodeKind.webhookDelivery.Fits fields) :
    ReadInFull .webhookDelivery fields := by
  have hbecomes := h.becomes
  simp only [NodeKind.schema, List.forall_mem_cons, List.not_mem_nil, false_implies, implies_true,
    and_true] at hbecomes
  obtain ⟨⟨_, hurl⟩, ⟨_, hmethod⟩, _, hinclude⟩ := hbecomes
  obtain ⟨url, hurl, -⟩ := hurl.eq_some_string (by decide) rfl
  obtain ⟨method, hmethod, -⟩ := hmethod.eq_map_string (by decide)
  obtain ⟨payload, hinclude⟩ := hinclude.eq_map_bool rfl
  refine ⟨.webhookDelivery ⟨url, method, payload⟩,
    Takes.reads_decode ?_ _ h.ordered h.declared, ?_⟩
  · exact (((takes_required hurl (reads_string url)).map _).seq
      (takes_optional_string hmethod)).seq
      (takes_optional_bool hinclude)
  · simp only [NodeKind.schema, List.map_cons, List.map_nil, hurl, hmethod, hinclude]
    rfl

theorem readInFull_partnerIntegration (h : NodeKind.partnerIntegration.Fits fields) :
    ReadInFull .partnerIntegration fields := by
  have hbecomes := h.becomes
  simp only [NodeKind.schema, List.forall_mem_cons, List.not_mem_nil, false_implies, implies_true,
    and_true] at hbecomes
  obtain ⟨⟨_, hpartner⟩, ⟨_, haction⟩, _, hcredential⟩ := hbecomes
  obtain ⟨partner, hpartner, -⟩ := hpartner.eq_some_string (by decide) rfl
  obtain ⟨action, haction, -⟩ := haction.eq_some_string (by decide) rfl
  obtain ⟨credential, hcredential, -⟩ := hcredential.eq_some_string (by decide) rfl
  refine ⟨.partnerIntegration ⟨partner, action, credential⟩,
    Takes.reads_decode ?_ _ h.ordered h.declared, ?_⟩
  · exact (((takes_required hpartner (reads_string partner)).map _).seq
      (takes_required haction (reads_string action))).seq
      (takes_required hcredential (reads_string credential))
  · simp only [NodeKind.schema, List.map_cons, List.map_nil, hpartner, haction, hcredential]
    rfl

end Kinds

/-- A normal form of a kind is read as a configuration that holds its values. -/
theorem exists_reads [UrlReader] {k : NodeKind} {fields : Fields} (h : k.Fits fields) :
    ∃ c, Reads (decoder k) (.object fields) c ∧
      c.values = k.schema.map fun spec => (spec.key, fields.get? spec.key) := by
  cases k with
  | expirationTrigger => exact readInFull_expirationTrigger h
  | inventoryStatusTrigger => exact readInFull_inventoryStatusTrigger h
  | conditionalBranch => exact readInFull_conditionalBranch h
  | updateData => exact readInFull_updateData h
  | generateRecipe => exact readInFull_generateRecipe h
  | sendNotification => exact readInFull_sendNotification h
  | webhookDelivery => exact readInFull_webhookDelivery h
  | partnerIntegration => exact readInFull_partnerIntegration h

variable [UrlReader] {k : NodeKind} {raw fields : Fields} {key : String} {fault : FieldFault}

/-- Every normal form by the fields that are built in is read. -/
theorem exists_ofJson (h : normalise raw k.schema = .ok fields) :
    ∃ c, Decoder.ofJson (decoder k) (.object fields) = .ok c ∧
      c.values = k.schema.map fun spec => (spec.key, fields.get? spec.key) := by
  obtain ⟨c, hreads, hvalues⟩ := exists_reads (NodeKind.fits_of_normalise h)
  exact ⟨c, hreads.ofJson, hvalues⟩

theorem ofRaw_of_normalise {c : NodeConfig} (h : normalise raw k.schema = .ok fields)
    (hc : Decoder.ofJson (decoder k) (.object fields) = .ok c) : ofRaw k k.schema raw = .ok c := by
  refine bind_eq_ok_iff.2 ⟨fields, h, ?_⟩
  rw [hc]

/-- A raw configuration is at fault only if it has no normal form. -/
theorem ofRaw_schema_eq_error_iff :
    ofRaw k k.schema raw = .error (key, fault) ↔ normalise raw k.schema = .error (key, fault) := by
  rw [ofRaw_eq_error_iff]
  refine or_iff_left ?_
  rintro ⟨fields, e, hfields, he, -⟩
  obtain ⟨c, hc, -⟩ := exists_ofJson hfields
  rw [hc] at he
  cases he

end NodeConfig

/-! ## Checking a configuration -/

namespace NodeKind

/-- No field has the name under which a configuration as a whole is reported. -/
theorem wholeConfig_not_mem_schema (k : NodeKind) :
    NodeConfig.wholeConfig ∉ k.schema.map FieldSpec.key := by
  cases k <;> decide

end NodeKind

namespace Registry

variable [UrlReader] {r : Registry} {id : String} {k : NodeKind} {raw : Fields}

theorem configure_of_normalise {fields : Fields} {c : NodeConfig}
    (hk : r.schema? k = some k.schema)
    (h : normalise raw k.schema = .ok fields)
    (hc : Decoder.ofJson (NodeConfig.decoder k) (.object fields) = .ok c) :
    r.configure id k raw = .ok c := by
  rw [configure_of_schema? hk, NodeConfig.ofRaw_of_normalise h hc]
  rfl

/-- By the fields that are built in, a configuration is refused for the fault that keeps it from a
normal form. -/
theorem configure_eq_error_iff_normalise {err : FlowError} (hk : r.schema? k = some k.schema) :
    r.configure id k raw = .error err ↔
      ∃ key fault, normalise raw k.schema = .error (key, fault) ∧
        err = .config ⟨id, key, fault⟩ := by
  simp only [configure_eq_error_iff hk, NodeConfig.ofRaw_schema_eq_error_iff]

/-- By the fields that are built in for its kind, what has a normal form is accepted: the normal
form is read as a configuration of the kind, with its values and without those that it leaves out.
So no configuration is refused as a whole. -/
theorem configure_normalised (hk : r.schema? k = some k.schema) (id : String) (raw : Fields) :
    (∀ fields, normalise raw k.schema = .ok fields →
      ∃ c, Decoder.ofJson (NodeConfig.decoder k) (.object fields) = .ok c ∧
        r.configure id k raw = .ok c ∧ c.kind = k ∧
        c.values = k.schema.map fun spec => (spec.key, fields.get? spec.key)) ∧
    ∀ e, r.configure id k raw = .error (.config e) → e.field ≠ NodeConfig.wholeConfig := by
  constructor
  · intro fields hfields
    obtain ⟨c, hc, hvalues⟩ := NodeConfig.exists_ofJson hfields
    exact ⟨c, hc, configure_of_normalise hk hfields hc, NodeConfig.kind_of_decoder hc, hvalues⟩
  · intro e he hfield
    obtain ⟨key, fault, hfault, he⟩ := (configure_eq_error_iff_normalise hk).1 he
    cases he
    obtain ⟨before, spec, after, hschema, -, -, hkey⟩ := normalise_eq_error_iff.1 hfault
    have hspec : spec ∈ k.schema := by
      rw [hschema]
      exact List.mem_append_right _ List.mem_cons_self
    refine k.wholeConfig_not_mem_schema (List.mem_map.2 ⟨spec, hspec, ?_⟩)
    exact hkey.trans hfield

end Registry

/-- A message to a number that is not written as a text, by a channel that is not spelt as the
options are, with a subject that is blank and a field that no schema knows. -/
def Example.looseNotification : Fields :=
  [("channel", .string " SMS "), ("message", .string "Use the milk"), ("priority", .bool true),
    ("recipient", .number (.int 555)), ("subject", .string "  ")]

/-- Its subject and its credential are left out, and the rest is text. -/
theorem Registry.configure_normalised_notification :
    Registry.builtin.schema? .sendNotification = some NodeKind.sendNotification.schema ∧
      normalise Example.looseNotification NodeKind.sendNotification.schema =
        .ok [("channel", .string "sms"), ("message", .string "Use the milk"),
          ("recipient", .string "555")] ∧
      (∃ c,
        Registry.builtin.configure "notify" .sendNotification Example.looseNotification = .ok c ∧
        c.kind = .sendNotification ∧
        c.values = [("channel", some (.string "sms")), ("recipient", some (.string "555")),
          ("subject", none), ("message", some (.string "Use the milk")),
          ("credentialId", none)]) := by
  have hk := Registry.schema?_builtin .sendNotification
  have hnormal : normalise Example.looseNotification NodeKind.sendNotification.schema =
      .ok [("channel", .string "sms"), ("message", .string "Use the milk"),
        ("recipient", .string "555")] := by
    rfl
  obtain ⟨c, -, hc, hkind, hvalues⟩ :=
    (Registry.configure_normalised hk "notify" Example.looseNotification).1 _ hnormal
  exact ⟨hk, hnormal, c, hc, hkind, hvalues⟩

end KitchenFlow
