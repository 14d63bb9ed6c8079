import KitchenFlow.Flow.Wire
import KitchenFlow.Proofs.Json.Reading
import KitchenFlow.Proofs.Number

/-!
# Flows read back

What a flow was read from may have left out much and may have had another form, but the flow that
was read is sound: its coordinates are in single precision, its configurations in normal form, and
it was published at an instant that can be written. A sound flow is read back from the value that it
is written as, unless a coordinate has become infinite; then the value has `null` in its place. From
a text it is read back as well, if reading gives back the numbers in it.

    Flow.Sound          what holds of every flow that was read
    Flow.reads_toJson   a flow is read back from its value
    Flow.Legible        what reading its text gives back the numbers of
    Flow.ofText_written a flow is read back from its text
-/

namespace KitchenFlow

open Document (StandsFor)

/-! ## What was read -/

namespace CanvasPoint

/-- The coordinates are in single precision. -/
def Sound (p : CanvasPoint) : Prop := p.x.toSingle = p.x ∧ p.y.toSingle = p.y

/-- Neither coordinate is infinite. -/
def Finite (p : CanvasPoint) : Prop := p.x.isFinite = true ∧ p.y.isFinite = true

instance (p : CanvasPoint) : Decidable p.Finite := by unfold Finite; infer_instance

end CanvasPoint

/-- The place is in single precision, and the configuration in normal form. -/
structure NodeSpec.Sound (n : NodeSpec) : Prop where
  position : n.position.Sound
  config : (Json.object n.config).Normal

/-- The nodes are sound, and the flow was published at an instant that can be written. -/
structure Flow.Sound (f : Flow) : Prop where
  nodes : ∀ n ∈ f.nodes, n.Sound
  lastPublished : ∀ t ∈ f.lastPublished, t.Proper

namespace Decoder

variable {α : Type} {d : Decoder α} {doc : Document}

theorem toSingle_of_single {x : Binary64} (h : single doc = .ok x) : x.toSingle = x := by
  unfold single at h
  split at h
  · obtain ⟨n, -, rfl⟩ := Fallible.map_eq_ok_iff.1 h
    cases n with
    | int n => rw [JsonNumber.toSingle, Binary64.singleOfInt, Binary64.toSingle_toSingle]
    | float x | single x => exact Binary64.toSingle_toSingle x
  · cases h

theorem proper_of_timestamp {t : Instant} (h : timestamp doc = .ok t) : t.Proper := by
  unfold timestamp at h
  split at h
  · obtain ⟨s, -, h⟩ := Fallible.bind_eq_ok_iff.1 h
    split at h
    · next hparse =>
      cases h
      exact Timestamp.proper_of_parse hparse
    · cases h
  · cases h

theorem exists_of_optional {o : Option α} (h : optional d doc = .ok o) {a : α} (ha : a ∈ o) :
    d doc = .ok a := by
  unfold optional at h
  split at h
  · cases h
    cases ha
  · obtain ⟨b, hb, rfl⟩ := Fallible.map_eq_ok_iff.1 h
    cases ha
    exact hb

/-- Every element of a list was read from a part of it. -/
theorem exists_of_list {as : List α} (h : list d doc = .ok as) {a : α} (ha : a ∈ as) :
    ∃ part ∈ doc.parts, d part = .ok a := by
  have hgo : ∀ {items : List (Place × Document)} {as : List α}, each d items = .ok as → a ∈ as →
      ∃ part ∈ items.map (·.2), d part = .ok a := by
    intro items
    induction items with
    | nil =>
      intro as h ha
      cases h
      cases ha
    | cons item rest ih =>
      intro as h ha
      obtain ⟨b, hb, h⟩ := Fallible.bind_eq_ok_iff.1 h
      obtain ⟨bs, hbs, h⟩ := Fallible.bind_eq_ok_iff.1 h
      cases h
      rcases List.mem_cons.1 ha with rfl | ha
      · exact ⟨_, List.mem_cons_self, hb⟩
      · obtain ⟨part, hpart, hread⟩ := ih hbs ha
        exact ⟨part, List.mem_cons_of_mem _ hpart, hread⟩
  unfold list at h
  split at h
  · obtain ⟨_, hdeep, hrest⟩ := Fallible.bind_eq_ok_iff.1 h
    cases eq_none_of_notDeep hdeep
    obtain ⟨bs, hbs, hclose⟩ := Fallible.bind_eq_ok_iff.1 hrest
    split at hclose
    · cases hclose
      exact hgo hbs ha
    · cases hclose
  · cases h

end Decoder

namespace Record

variable {α β : Type} {slot : String → Option Document} {absent : String → DecodeError}

theorem build_map {r : Record α} {f : α → β} {b : β} :
    (f <$> r).build slot absent = .ok b ↔ ∃ a, r.build slot absent = .ok a ∧ f a = b :=
  Fallible.map_eq_ok_iff

theorem build_seq {f : Record (α → β)} {r : Record α} {b : β} :
    (f <*> r).build slot absent = .ok b ↔
      ∃ g, f.build slot absent = .ok g ∧ ∃ a, r.build slot absent = .ok a ∧ g a = b := by
  show (f.build slot absent >>= fun g => r.build slot absent >>= fun a => .ok (g a)) = _ ↔ _
  simp only [Fallible.bind_eq_ok_iff, Except.ok.injEq]

theorem build_required {name : String} {d : Decoder α} {a : α}
    (h : (required name d).build slot absent = .ok a) :
    ∃ part, slot name = some part ∧ d part = .ok a := by
  rw [required] at h
  dsimp only at h
  split at h
  · next hslot => exact ⟨_, hslot, h⟩
  · cases h

theorem build_withDefault {name : String} {default : α} {d : Decoder α} {a : α}
    (h : (withDefault name default d).build slot absent = .ok a) :
    a = default ∨ ∃ part, slot name = some part ∧ d part = .ok a := by
  rw [withDefault] at h
  dsimp only at h
  split at h
  · next hslot => exact .inr ⟨_, hslot, h⟩
  · cases h
    exact .inl rfl

end Record

theorem CanvasPoint.sound_origin : CanvasPoint.origin.Sound := by
  constructor <;> decide +kernel

theorem CanvasPoint.sound_of_decoder {doc : Document} {p : CanvasPoint}
    (h : CanvasPoint.decoder doc = .ok p) : p.Sound := by
  obtain ⟨slot, absent, h, -⟩ := Record.exists_build h
  simp only [CanvasPoint.record, Record.build_seq, Record.build_map] at h
  obtain ⟨_, ⟨x, hx, rfl⟩, y, hy, rfl⟩ := h
  obtain ⟨_, -, hx⟩ := Record.build_required hx
  obtain ⟨_, -, hy⟩ := Record.build_required hy
  exact ⟨Decoder.toSingle_of_single hx, Decoder.toSingle_of_single hy⟩

theorem NodeSpec.sound_of_decoder {doc : Document} {n : NodeSpec}
    (h : NodeSpec.decoder doc = .ok n) : n.Sound := by
  obtain ⟨slot, absent, h, -⟩ := Record.exists_build h
  simp only [NodeSpec.record, Record.build_seq, Record.build_map] at h
  obtain ⟨_, ⟨_, ⟨_, ⟨id, -, rfl⟩, kind, -, rfl⟩, position, hposition, rfl⟩, config, hconfig,
    rfl⟩ := h
  constructor
  · rcases Record.build_withDefault hposition with rfl | ⟨_, -, hposition⟩
    · exact CanvasPoint.sound_origin
    · exact CanvasPoint.sound_of_decoder hposition
  · rcases Record.build_withDefault hconfig with rfl | ⟨_, -, hconfig⟩
    · exact ⟨List.Pairwise.nil, trivial⟩
    · exact Decoder.normal_of_fields hconfig

/-- Every flow that was read is sound. -/
theorem Flow.sound_of_decoder {doc : Document} {f : Flow} (h : Flow.decoder doc = .ok f) :
    f.Sound := by
  obtain ⟨slot, absent, h, -⟩ := Record.exists_build h
  simp only [Flow.record, Record.build_seq, Record.build_map] at h
  obtain ⟨_, ⟨_, ⟨_, ⟨_, ⟨_, ⟨id, -, rfl⟩, name, -, rfl⟩, nodes, hnodes, rfl⟩, edges, -, rfl⟩,
    active, -, rfl⟩, published, hpublished, rfl⟩ := h
  constructor
  · intro n hn
    rcases Record.build_withDefault hnodes with rfl | ⟨_, -, hnodes⟩
    · cases hn
    · obtain ⟨item, -, hitem⟩ := Decoder.exists_of_list hnodes hn
      exact NodeSpec.sound_of_decoder hitem
  · intro t ht
    rcases Record.build_withDefault hpublished with rfl | ⟨_, -, hpublished⟩
    · cases ht
    · exact Decoder.proper_of_timestamp (Decoder.exists_of_optional hpublished ht)

/-! ## What is read back -/

open Decoder (Reads)

namespace CanvasPoint

variable {p : CanvasPoint}

/-- A point is read from numbers that come to its coordinates in single precision. -/
theorem reads_object {m n : JsonNumber} (hx : m.toSingle = p.x)
    (hy : n.toSingle = p.y) :
    Reads CanvasPoint.decoder (.object [("x", .number m), ("y", .number n)]) p := by
  have hx : Reads Decoder.single (.number m) p.x := Decoder.reads_single hx
  have hy : Reads Decoder.single (.number n) p.y := Decoder.reads_single hy
  refine Record.reads_decode "Position" ?_ ?_ ?_
  · simp
  · simp only [List.forall_mem_cons, List.not_mem_nil, false_implies, implies_true, and_true]
    exact ⟨Record.accepts_of_reads rfl hx, Record.accepts_of_reads rfl hy⟩
  · exact ((Record.builds_required rfl hx).map CanvasPoint.mk).seq (Record.builds_required rfl hy)

end CanvasPoint

/-- A node as an object, whatever its position is written as. -/
def NodeSpec.objectOf (n : NodeSpec) (position : Json) : Json :=
  .object
    [("id", .string n.id), ("type", .string n.kindName), ("position", position),
      ("config", .object n.config)]

theorem NodeSpec.reads_objectOf {n : NodeSpec} {position : Json}
    (hposition : Reads CanvasPoint.decoder position n.position)
    (hconfig : (Json.object n.config).Normal) :
    Reads NodeSpec.decoder (n.objectOf position) n := by
  have hid := Decoder.reads_string n.id
  have hkind := Decoder.reads_string n.kindName
  have hconfig := Decoder.reads_fields hconfig
  refine Record.reads_decode "NodeSpec" ?_ ?_ ?_
  · simp
  · simp only [List.forall_mem_cons, List.not_mem_nil, false_implies, implies_true, and_true]
    exact ⟨Record.accepts_of_reads rfl hid, Record.accepts_of_reads rfl hkind,
      Record.accepts_of_reads rfl hposition, Record.accepts_of_reads rfl hconfig⟩
  · exact ((((Record.builds_required rfl hid).map NodeSpec.mk).seq
      (Record.builds_required rfl hkind)).seq
      (Record.builds_withDefault _ rfl hposition)).seq (Record.builds_withDefault _ rfl hconfig)

/-- An edge is read back from its object. -/
theorem Edge.reads_toJson (e : Edge) : Reads Edge.decoder e.toJson e := by
  obtain ⟨id, source, target, sourceHandle, targetHandle, edgeType⟩ := e
  have hid := Decoder.reads_string id
  have hsource := Decoder.reads_string source
  have htarget := Decoder.reads_string target
  have hsourceHandle := Decoder.reads_ofOption_string sourceHandle
  have htargetHandle := Decoder.reads_ofOption_string targetHandle
  refine Record.reads_decode "Edge" ?_ (List.forall_mem_append.2 ⟨?_, ?_⟩) ?_
  · cases edgeType <;> simp
  · simp only [List.forall_mem_cons, List.not_mem_nil, false_implies, implies_true, and_true]
    exact ⟨Record.accepts_of_reads rfl hid, Record.accepts_of_reads rfl hsource,
      Record.accepts_of_reads rfl htarget, Record.accepts_of_reads rfl hsourceHandle,
      Record.accepts_of_reads rfl htargetHandle⟩
  · cases edgeType with
    | none => exact fun _ h => (List.not_mem_nil h).elim
    | some name =>
      rw [List.forall_mem_singleton]
      exact Record.accepts_of_reads rfl ((Decoder.reads_string name).some rfl)
  · refine (((((Record.builds_required rfl hid).map Edge.mk).seq
      (Record.builds_required rfl hsource)).seq (Record.builds_required rfl htarget)).seq
      (Record.builds_withDefault _ rfl hsourceHandle)).seq
      (Record.builds_withDefault _ rfl htargetHandle) |>.seq ?_
    cases edgeType with
    | none => exact Record.builds_absent _ rfl
    | some name => exact Record.builds_withDefault _ rfl ((Decoder.reads_string name).some rfl)

/-- A flow as an object, whatever its nodes are written as. -/
def Flow.objectOf (f : Flow) (nodes : List Json) : Json :=
  .object
    [("id", .string f.id), ("name", .string f.name), ("nodes", .array nodes),
      ("edges", .array (f.edges.map (·.toJson))), ("isActive", .bool f.isActive),
      ("lastPublished", .ofOption Instant.toJson f.lastPublished)]

/-- A flow is read from its object if its nodes are. -/
theorem Flow.reads_objectOf {f : Flow} {nodes : List Json}
    (hnodes : List.Forall₂ (Reads NodeSpec.decoder) nodes f.nodes)
    (hpublished : ∀ t ∈ f.lastPublished, t.Proper) : Reads Flow.decoder (f.objectOf nodes) f := by
  have hid := Decoder.reads_string f.id
  have hname := Decoder.reads_string f.name
  have hnodes := Decoder.reads_list hnodes
  have hedges : Reads (Decoder.list Edge.decoder) (.array (f.edges.map (·.toJson))) f.edges :=
    Decoder.reads_list (List.forall₂_map_left_iff.2
      (List.forall₂_same.2 fun e _ => e.reads_toJson))
  have hactive := Decoder.reads_bool f.isActive
  have hpublished : Reads (Decoder.optional Decoder.timestamp)
      (.ofOption Instant.toJson f.lastPublished) f.lastPublished :=
    Decoder.reads_ofOption fun t ht => ⟨Decoder.reads_timestamp (hpublished t ht), rfl⟩
  refine Record.reads_decode "Flow" ?_ ?_ ?_
  · simp
  · simp only [List.forall_mem_cons, List.not_mem_nil, false_implies, implies_true, and_true]
    exact ⟨Record.accepts_of_reads rfl hid, Record.accepts_of_reads rfl hname,
      Record.accepts_of_reads rfl hnodes, Record.accepts_of_reads rfl hedges,
      Record.accepts_of_reads rfl hactive, Record.accepts_of_reads rfl hpublished⟩
  · exact ((((((Record.builds_required rfl hid).map Flow.mk).seq
      (Record.builds_required rfl hname)).seq (Record.builds_withDefault _ rfl hnodes)).seq
      (Record.builds_withDefault _ rfl hedges)).seq (Record.builds_withDefault _ rfl hactive)).seq
      (Record.builds_withDefault _ rfl hpublished)

/-! ## Values -/

/-- No node is placed infinitely far away. -/
def Flow.Finite (f : Flow) : Prop := ∀ n ∈ f.nodes, n.position.Finite

instance (f : Flow) : Decidable f.Finite := by unfold Flow.Finite; infer_instance

theorem CanvasPoint.reads_toJson {p : CanvasPoint} (hp : p.Sound) (hfinite : p.Finite) :
    Reads CanvasPoint.decoder p.toJson p := by
  have hx : Json.ofBinary64 p.x = .number (.float p.x) := if_pos hfinite.1
  have hy : Json.ofBinary64 p.y = .number (.float p.y) := if_pos hfinite.2
  rw [toJson, toJsonWith, hx, hy]
  exact reads_object hp.1 hp.2

theorem Flow.reads_toJson {f : Flow} (hf : f.Sound) (hfinite : f.Finite) :
    Reads Flow.decoder f.toJson f := by
  refine Flow.reads_objectOf (List.forall₂_map_left_iff.2 (List.forall₂_same.2 fun n hn => ?_))
    hf.lastPublished
  exact NodeSpec.reads_objectOf (CanvasPoint.reads_toJson (hf.nodes n hn).position (hfinite n hn))
    (hf.nodes n hn).config

/-- What is read from a list of values is read from each of them. -/
theorem Decoder.exists_of_array {α : Type} {d : Decoder α} {vs : List Json} {as : List α}
    (h : Decoder.list d (.ofJson (.array vs)) = .ok as) {v : Json} (hv : v ∈ vs) :
    ∃ a, d (.ofJson v) = .ok a := by
  have hgo : ∀ {ws : List Json} {bs : List α}, each d (Document.ofItems ws) = .ok bs → v ∈ ws →
      ∃ a, d (.ofJson v) = .ok a := by
    intro ws
    induction ws with
    | nil =>
      intro _ _ hv
      cases hv
    | cons w ws ih =>
      intro bs hbs hv
      obtain ⟨b, hb, hbs⟩ := Fallible.bind_eq_ok_iff.1 hbs
      obtain ⟨cs, hcs, -⟩ := Fallible.bind_eq_ok_iff.1 hbs
      rcases List.mem_cons.1 hv with rfl | hv
      · exact ⟨b, hb⟩
      · exact ih hcs hv
  obtain ⟨-, -, h⟩ := Fallible.bind_eq_ok_iff.1 h
  obtain ⟨bs, hbs, -⟩ := Fallible.bind_eq_ok_iff.1 h
  exact hgo hbs hv

theorem Decoder.isFinite_of_single {x : Binary64} {y : Unit}
    (h : (single (.ofJson (.ofBinary64 x))).map (fun _ => ()) = .ok y) : x.isFinite = true := by
  by_contra hx
  rw [Json.ofBinary64, if_neg hx] at h
  cases h

theorem CanvasPoint.finite_of_decoder {p q : CanvasPoint}
    (h : CanvasPoint.decoder (.ofJson p.toJson) = .ok q) : p.Finite := by
  have hx := Record.check_of_decode h (e := ("x", .ofBinary64 p.x)) (by simp) rfl
  have hy := Record.check_of_decode h (e := ("y", .ofBinary64 p.y)) (by simp) rfl
  exact ⟨Decoder.isFinite_of_single hx, Decoder.isFinite_of_single hy⟩

theorem Flow.finite_of_decoder {f g : Flow} (h : Flow.decoder (.ofJson f.toJson) = .ok g) :
    f.Finite := by
  intro n hn
  have hnodes := Record.check_of_decode h
    (e := ("nodes", .array (f.nodes.map (·.toJsonWith .ofBinary64)))) (by simp) rfl
  obtain ⟨nodes, hnodes, -⟩ := Fallible.map_eq_ok_iff.1 hnodes
  obtain ⟨m, hm⟩ := Decoder.exists_of_array hnodes (List.mem_map_of_mem hn)
  have hposition := Record.check_of_decode hm (e := ("position", n.position.toJson))
    (by simp [CanvasPoint.toJson]) rfl
  obtain ⟨p, hp, -⟩ := Fallible.map_eq_ok_iff.1 hposition
  exact CanvasPoint.finite_of_decoder hp

/-! ## Texts -/

/-- Both coordinates are read back from the numbers that they are written as. -/
structure CanvasPoint.Legible (p : CanvasPoint) : Prop where
  x : (JsonNumber.single p.x).reread?.map (·.toSingle) = some p.x
  y : (JsonNumber.single p.y).reread?.map (·.toSingle) = some p.y

/-- The place is read back from its text, and so is the configuration. The configuration of a node
stands three levels deep in its flow. -/
structure NodeSpec.Legible (n : NodeSpec) : Prop where
  position : n.position.Legible
  config : (Json.object n.config).reread? 124 = some (.object n.config)

/-- The nodes are read back from their texts. -/
def Flow.Legible (f : Flow) : Prop := ∀ n ∈ f.nodes, n.Legible

namespace Json

variable {levels : Nat}

theorem rereadItems?_eq {vs ws : List Json}
    (h : List.Forall₂ (fun v w => v.reread? levels = some w) vs ws) :
    rereadItems? levels vs = some ws := by
  induction h with
  | nil => rfl
  | cons hv _ ih =>
    rw [rereadItems?, hv, ih]
    rfl

theorem reread?_ofSingle {x y : Binary64} (levels : Nat)
    (h : (JsonNumber.single x).reread?.map (·.toSingle) = some y) :
    ∃ m : JsonNumber, (ofSingle x).reread? levels = some (.number m) ∧
      m.toSingle = y := by
  obtain ⟨m, hm, hy⟩ := Option.map_eq_some_iff.1 h
  have hfinite : x.isFinite = true := Document.isFinite_of_reread? hm
  refine ⟨m, ?_, hy⟩
  rw [ofSingle, if_pos hfinite, reread?, hm]
  rfl

end Json

/-- A node is read back from its text as an object of which the node is read. -/
theorem NodeSpec.exists_reread {n : NodeSpec} (hn : n.Sound) (h : n.Legible) :
    ∃ v, (n.toJsonWith .ofSingle).reread? 125 = some v ∧ Reads NodeSpec.decoder v n := by
  obtain ⟨m, hm, hx⟩ := Json.reread?_ofSingle 123 h.position.x
  obtain ⟨k, hk, hy⟩ := Json.reread?_ofSingle 123 h.position.y
  have hconfig : (Json.rereadFields? 123 n.config).map Json.object = some (.object n.config) :=
    h.config
  refine ⟨_, ?_, NodeSpec.reads_objectOf (CanvasPoint.reads_object hx hy) hn.config⟩
  simp [toJsonWith, CanvasPoint.toJsonWith, objectOf, Json.reread?, Json.rereadFields?, hm, hk,
    hconfig]

theorem Edge.reread?_toJson (e : Edge) (levels : Nat) :
    e.toJson.reread? (levels + 1) = some e.toJson := by
  obtain ⟨id, source, target, sourceHandle, targetHandle, edgeType⟩ := e
  cases edgeType <;>
    simp [toJson, Json.reread?, Json.rereadFields?, Json.reread?_ofOption_string]

/-- A flow whose numbers can be read back is read back from its text. -/
theorem Flow.ofText_written {f : Flow} (hf : f.Sound) (hlegible : f.Legible) :
    Decoder.ofText Flow.decoder f.written.pretty = .ok f := by
  obtain ⟨nodes, hnodes, hreads⟩ := Decoder.exists_rereadItems (List.forall₂_same.2 fun n hn =>
    NodeSpec.exists_reread (hf.nodes n hn) (hlegible n hn))
  have hedges : Json.rereadItems? 125 (f.edges.map (·.toJson)) = some (f.edges.map (·.toJson)) :=
    Json.rereadItems?_eq (List.forall₂_same.2 fun v hv => by
      obtain ⟨e, -, rfl⟩ := List.mem_map.1 hv
      exact e.reread?_toJson 124)
  have hpublished : (Json.ofOption Instant.toJson f.lastPublished).reread? 126 =
      some (.ofOption Instant.toJson f.lastPublished) := by
    cases f.lastPublished <;> rfl
  refine Decoder.ofText_pretty (Flow.reads_objectOf hreads hf.lastPublished) ?_
  simp [written, toJsonWith, objectOf, Json.reread?, Json.rereadFields?, hnodes, hedges,
    hpublished]

/-! ## What becomes of a flow that was read -/

/-- A flow that was read is read back from its value if no coordinate has become infinite, and
otherwise its value is that of no flow. It is read back from its text if its numbers are. -/
theorem Flow.read_back {doc : Document} {f : Flow} (h : Flow.decoder doc = .ok f) :
    (f.Finite → Decoder.ofJson Flow.decoder f.toJson = .ok f) ∧
      (¬ f.Finite → ∃ e, Decoder.ofJson Flow.decoder f.toJson = .error e) ∧
        (f.Legible → Decoder.ofText Flow.decoder f.written.pretty = .ok f) := by
  have hf := Flow.sound_of_decoder h
  refine ⟨fun hfinite => (Flow.reads_toJson hf hfinite).ofJson, fun hinfinite => ?_,
    fun hlegible => Flow.ofText_written hf hlegible⟩
  cases hread : Decoder.ofJson Flow.decoder f.toJson with
  | error e => exact ⟨e, rfl⟩
  | ok g => exact (hinfinite (Flow.finite_of_decoder hread)).elim

namespace Flow

/-- A flow of one node, as a value that leaves out what has a default. -/
def placedValue (x : Binary64) : Json :=
  .object [("id", .string "flow-1"), ("name", .string "One node"), ("nodes", .array [.object
    [("id", .string "trigger-1"), ("type", .string "ManualTrigger"),
      ("position", .object [("x", .number (.float x)), ("y", .number (.int 0))])]])]

/-- The flow of that value. -/
def placed (x : Binary64) : Flow :=
  ⟨"flow-1", "One node", [⟨"trigger-1", "ManualTrigger", ⟨x.toSingle, Binary64.singleOfInt 0⟩,
    []⟩], [], false, none⟩

theorem ofJson_placedValue (x : Binary64) :
    Decoder.ofJson Flow.decoder (placedValue x) = .ok (placed x) := rfl

/-- The number one and a half. -/
def oneAndHalf : Binary64 := Binary64.ofRatio false 3 2

/-- The number `1e39`, which is too large for single precision. -/
def farAway : Binary64 := Binary64.ofRatio false (10 ^ 39) 1

theorem read_back_placed :
    Decoder.ofJson Flow.decoder (placedValue oneAndHalf) = .ok (placed oneAndHalf) ∧
      Decoder.ofJson Flow.decoder (placed oneAndHalf).toJson = .ok (placed oneAndHalf) ∧
        Decoder.ofText Flow.decoder (placed oneAndHalf).written.pretty =
          .ok (placed oneAndHalf) := by
  have hread := ofJson_placedValue oneAndHalf
  have hfinite : (placed oneAndHalf).Finite := by decide +kernel
  have hlegible : (placed oneAndHalf).Legible := by
    refine List.forall_mem_singleton.2 ⟨⟨?_, ?_⟩, rfl⟩ <;> decide +kernel
  exact ⟨hread, (Flow.read_back hread).1 hfinite, (Flow.read_back hread).2.2 hlegible⟩

/-- A flow that was read and is not read back. -/
theorem not_read_back_far :
    ¬ ∀ (v : Json) (f : Flow), Decoder.ofJson Flow.decoder v = .ok f →
      Decoder.ofJson Flow.decoder f.toJson = .ok f := by
  intro h
  have hinfinite : ¬ (placed farAway).Finite := by decide +kernel
  exact hinfinite (Flow.finite_of_decoder (h _ _ (ofJson_placedValue farAway)))

end Flow
end KitchenFlow
