import KitchenFlow.Proofs.Json.Numbers

/-!
# Values that there is room for

Reading a text gives numbers that there is room for, and follows lists and objects down to a certain
depth only. Both are also what it takes for a value to be read again from its text. So a value that
was read once can be read again and again, as long as it does not come to stand deeper in a text;
its numbers may change on the way, but the value keeps its shape and its keys.

    Json.Fits                   values that there is room for, down to a depth
    Json.Fits.exists_reread     such a value is read again from its text
    Document.within_readValue   how deep a document is that was read
    Decoder.fits_of_json        what is read from a text is a value that there is room for
-/

namespace KitchenFlow

namespace Json

/-- There is room for the numbers in a value, and its lists and objects are nested within so many
levels. -/
inductive Fits : Nat → Json → Prop
  | null {levels : Nat} : Fits levels .null
  | bool {levels : Nat} (b : Bool) : Fits levels (.bool b)
  | number {levels : Nat} {n : JsonNumber} : n.Held → Fits levels (.number n)
  | string {levels : Nat} (s : String) : Fits levels (.string s)
  | array {levels : Nat} {items : List Json} :
    (∀ v ∈ items, Fits levels v) → Fits (levels + 1) (.array items)
  | object {levels : Nat} {fields : Fields} :
    (∀ e ∈ fields, Fits levels e.2) → Fits (levels + 1) (.object fields)

variable {levels : Nat} {v w : Json} {items ws : List Json} {fields gs : Fields}

/-! ## Read again -/

theorem exists_rereadItems (h : ∀ v ∈ items, ∃ w, v.reread? levels = some w) :
    ∃ ws, rereadItems? levels items = some ws := by
  induction items with
  | nil => exact ⟨[], rfl⟩
  | cons v items ih =>
    obtain ⟨⟨w, hw⟩, hitems⟩ := List.forall_mem_cons.1 h
    obtain ⟨ws, hws⟩ := ih hitems
    exact ⟨w :: ws, by rw [rereadItems?, hw, hws]; rfl⟩

theorem exists_rereadFields (h : ∀ e ∈ fields, ∃ w, e.2.reread? levels = some w) :
    ∃ gs, rereadFields? levels fields = some gs := by
  induction fields with
  | nil => exact ⟨[], rfl⟩
  | cons e fields ih =>
    obtain ⟨⟨w, hw⟩, hfields⟩ := List.forall_mem_cons.1 h
    obtain ⟨gs, hgs⟩ := ih hfields
    exact ⟨(e.1, w) :: gs, by rw [rereadFields?, hw, hgs]; rfl⟩

/-- A value that there is room for is read again from its text. -/
theorem Fits.exists_reread (h : v.Fits levels) : ∃ w, v.reread? levels = some w := by
  induction h with
  | null => exact ⟨.null, rfl⟩
  | bool b => exact ⟨.bool b, rfl⟩
  | number hn =>
    obtain ⟨m, hm⟩ := hn.exists_reread
    exact ⟨.number m, by rw [reread?, hm]; rfl⟩
  | string s => exact ⟨.string s, rfl⟩
  | array _ ih =>
    obtain ⟨ws, hws⟩ := exists_rereadItems ih
    exact ⟨.array ws, by rw [reread?, hws]; rfl⟩
  | object _ ih =>
    obtain ⟨gs, hgs⟩ := exists_rereadFields ih
    exact ⟨.object gs, by rw [reread?, hgs]; rfl⟩

/-- What fields are read again as has the same keys. -/
theorem map_fst_of_rereadFields? (h : rereadFields? levels fields = some gs) :
    gs.map Prod.fst = fields.map Prod.fst := by
  induction fields generalizing gs with
  | nil =>
    cases h
    rfl
  | cons e fields ih =>
    obtain ⟨w, -, h⟩ := Option.bind_eq_some_iff.1 h
    obtain ⟨gs', hgs, h⟩ := Option.bind_eq_some_iff.1 h
    cases h
    rw [List.map_cons, List.map_cons, ih hgs]

mutual

/-- What a value in normal form is read again as is in normal form. -/
theorem Normal.of_reread? : ∀ {v w : Json} {levels : Nat}, v.Normal → v.reread? levels = some w →
    w.Normal
  | .null, _, _, _, h | .bool _, _, _, _, h | .string _, _, _, _, h => by
    cases h
    trivial
  | .number _, _, _, _, h => by
    obtain ⟨m, -, rfl⟩ := Option.map_eq_some_iff.1 h
    trivial
  | .array _, _, 0, _, h | .object _, _, 0, _, h => by cases h
  | .array _, _, _ + 1, hv, h => by
    obtain ⟨ws, hws, rfl⟩ := Option.map_eq_some_iff.1 h
    exact NormalItems.of_reread? hv hws
  | .object fields, _, _ + 1, hv, h => by
    obtain ⟨gs, hgs, rfl⟩ := Option.map_eq_some_iff.1 h
    refine ⟨?_, NormalFields.of_reread? hv.2 hgs⟩
    have hordered := List.pairwise_map.2 hv.1
    rw [← map_fst_of_rereadFields? hgs] at hordered
    exact List.pairwise_map.1 hordered

theorem NormalItems.of_reread? : ∀ {items ws : List Json} {levels : Nat}, NormalItems items →
    rereadItems? levels items = some ws → NormalItems ws
  | [], _, _, _, h => by
    cases h
    trivial
  | _ :: _, _, _, hitems, h => by
    obtain ⟨w, hw, h⟩ := Option.bind_eq_some_iff.1 h
    obtain ⟨ws, hws, h⟩ := Option.bind_eq_some_iff.1 h
    cases h
    exact ⟨Normal.of_reread? hitems.1 hw, NormalItems.of_reread? hitems.2 hws⟩

theorem NormalFields.of_reread? : ∀ {fields gs : Fields} {levels : Nat}, NormalFields fields →
    rereadFields? levels fields = some gs → NormalFields gs
  | [], _, _, _, h => by
    cases h
    trivial
  | _ :: _, _, _, hfields, h => by
    obtain ⟨w, hw, h⟩ := Option.bind_eq_some_iff.1 h
    obtain ⟨gs, hgs, h⟩ := Option.bind_eq_some_iff.1 h
    cases h
    exact ⟨Normal.of_reread? hfields.1 hw, NormalFields.of_reread? hfields.2 hgs⟩

end

end Json

/-! ## Documents of texts -/

namespace Document

/-- There is room for the numbers in a document, and its lists and objects are nested within so many
levels, but for those that cannot be read. -/
inductive Within : Nat → Document → Prop
  | null {levels : Nat} {extent : Extent} : Within levels (.null extent)
  | bool {levels : Nat} {b : Bool} {extent : Extent} : Within levels (.bool b extent)
  | number {levels : Nat} {s : Scalar JsonNumber} {extent : Extent} :
    (∀ n, s.value = .ok n → n.Held) → Within levels (.number s extent)
  | string {levels : Nat} {s : Scalar String} {extent : Extent} : Within levels (.string s extent)
  | deepArray {levels : Nat} {start : Place} {f : Fault} {items : List (Place × Document)}
    {close : Close} : Within levels (.array start (some f) items close)
  | array {levels : Nat} {start : Place} {items : List (Place × Document)} {close : Close} :
    (∀ e ∈ items, Within levels e.2) → Within (levels + 1) (.array start none items close)
  | deepObject {levels : Nat} {start : Place} {f : Fault} {entries : List (Entry Document)}
    {close : Close} : Within levels (.object start (some f) entries close)
  | object {levels : Nat} {start : Place} {entries : List (Entry Document)} {close : Close} :
    (∀ e ∈ entries, Within levels e.value) → Within (levels + 1) (.object start none entries close)
  | broken {levels : Nat} {f : Fault} : Within levels (.broken f)

variable {levels deeper : Nat} {doc : Document} {c : Cursor}

theorem within_readWord (letters : List Char) {make : Extent → Document}
    (h : ∀ extent, (make extent).Within levels) (c : Cursor) :
    (readValue.readWord letters make c).1.Within levels := by
  rw [readValue.readWord]
  split
  · exact h _
  · exact .broken

theorem within_number (negative : Bool) (c : Cursor) (extent : Extent) :
    (Document.number (c.number negative).1 extent).Within levels :=
  .number fun _ => Cursor.held_of_number

/-- A list is either nested too deep to be read, or so is nothing in it that is not itself. -/
theorem within_array {items : List (Place × Document)} {close : Close} {start : Place}
    (h : ∀ e ∈ items, e.2.Within (deeper - 1 - 1)) :
    (Document.array start (depthFault deeper c) items close).Within (deeper - 1) := by
  rw [depthFault]
  split
  · exact .deepArray
  · obtain ⟨n, hn⟩ : ∃ n, deeper - 1 = n + 1 := ⟨deeper - 2, by omega⟩
    rw [hn] at h ⊢
    exact .array h

theorem within_object {entries : List (Entry Document)} {close : Close} {start : Place}
    (h : ∀ e ∈ entries, e.value.Within (deeper - 1 - 1)) :
    (Document.object start (depthFault deeper c) entries close).Within (deeper - 1) := by
  rw [depthFault]
  split
  · exact .deepObject
  · obtain ⟨n, hn⟩ : ∃ n, deeper - 1 = n + 1 := ⟨deeper - 2, by omega⟩
    rw [hn] at h ⊢
    exact .object h

section

variable [Strays]

mutual

/-- What is read with so many levels left is nested within one less. -/
theorem within_readValue : ∀ (fuel deeper : Nat) (c : Cursor),
    (readValue fuel deeper c).1.Within (deeper - 1)
  | 0, _, _ => by
    rw [readValue]
    exact .broken
  | fuel + 1, deeper, c => by
    rw [readValue]
    dsimp only
    split
    · exact .broken
    · exact within_readWord _ (fun _ => .null) _
    · exact within_readWord _ (fun _ => .bool) _
    · exact within_readWord _ (fun _ => .bool) _
    · exact within_number _ _ _
    · exact .string
    · exact within_array (within_readItems fuel (deeper - 1) true _)
    · exact within_object (within_readEntries fuel (deeper - 1) true _)
    · split
      · exact within_number _ _ _
      · exact .broken

theorem within_readItems : ∀ (fuel deeper : Nat) (first : Bool) (c : Cursor),
    ∀ e ∈ (readItems fuel deeper first c).1, e.2.Within (deeper - 1)
  | 0, _, _, _ => by
    rw [readItems]
    exact List.forall_mem_nil _
  | fuel + 1, deeper, first, c => by
    rw [readItems]
    dsimp only
    split
    · exact List.forall_mem_nil _
    · exact List.forall_mem_nil _
    · split_ifs
      · exact within_readItem fuel deeper _
      · split
        · exact List.forall_mem_nil _
        · exact List.forall_mem_nil _
        · exact within_readItem fuel deeper _
      · exact List.forall_mem_nil _

theorem within_readItem : ∀ (fuel deeper : Nat) (c : Cursor),
    ∀ e ∈ (readItem fuel deeper c).1, e.2.Within (deeper - 1)
  | 0, _, _ => by
    rw [readItem]
    exact List.forall_mem_nil _
  | fuel + 1, deeper, c => by
    rw [readItem]
    exact List.forall_mem_cons.2
      ⟨within_readValue fuel deeper c, within_readItems fuel deeper false _⟩

theorem within_readEntries : ∀ (fuel deeper : Nat) (first : Bool) (c : Cursor),
    ∀ e ∈ (readEntries fuel deeper first c).1, e.value.Within (deeper - 1)
  | 0, _, _, _ => by
    rw [readEntries]
    exact List.forall_mem_nil _
  | fuel + 1, deeper, first, c => by
    rw [readEntries]
    dsimp only
    split
    · exact List.forall_mem_nil _
    · exact List.forall_mem_nil _
    · split_ifs
      · exact within_readEntry fuel deeper _
      · exact List.forall_mem_nil _
      · split
        · exact List.forall_mem_nil _
        · exact within_readEntry fuel deeper _
        · exact List.forall_mem_nil _
        · exact List.forall_mem_nil _
      · exact List.forall_mem_nil _

theorem within_readEntry : ∀ (fuel deeper : Nat) (c : Cursor),
    ∀ e ∈ (readEntry fuel deeper c).1, e.value.Within (deeper - 1)
  | 0, _, _ => by
    rw [readEntry]
    exact List.forall_mem_nil _
  | fuel + 1, deeper, c => by
    rw [readEntry]
    dsimp only
    split
    · exact List.forall_mem_cons.2
        ⟨within_readValue fuel deeper _, within_readEntries fuel deeper false _⟩
    · exact List.forall_mem_singleton.2 .broken

end

theorem within_ofCursor (c : Cursor) : (ofCursor c).1.Within 127 := within_readValue _ depthLimit c

end

/-- What is read from bytes is nested as deep as a reader follows. -/
theorem within_ofBytes (bytes : List UInt8) : (ofBytes bytes).1.Within 127 :=
  letI : Strays := ⟨strayPlaces ⟨1, 0⟩ (Text.characters 0 bytes)⟩
  within_ofCursor _

/-- Parts are nested within one level less. -/
theorem Within.of_mem_parts {part : Document} (h : doc.Within levels) (hpart : part ∈ doc.parts) :
    part.Within (levels - 1) := by
  cases h with
  | array h =>
    obtain ⟨e, he, rfl⟩ := List.mem_map.1 hpart
    exact h e he
  | object h =>
    obtain ⟨e, he, rfl⟩ := List.mem_map.1 hpart
    exact h e he
  | null | bool | number | string | deepArray | deepObject | broken => cases hpart

theorem mem_ofItems {e : Place × Document} {items : List Json} (h : e ∈ ofItems items) :
    ∃ v ∈ items, e.2 = ofJson v := by
  induction items with
  | nil => cases h
  | cons v rest ih =>
    rcases List.mem_cons.1 h with rfl | h
    · exact ⟨v, List.mem_cons_self, rfl⟩
    · obtain ⟨w, hw, he⟩ := ih h
      exact ⟨w, List.mem_cons_of_mem _ hw, he⟩

theorem mem_ofFields {e : Entry Document} {fields : Fields} (h : e ∈ ofFields fields) :
    ∃ f ∈ fields, e.value = ofJson f.2 := by
  induction fields with
  | nil => cases h
  | cons f rest ih =>
    rcases List.mem_cons.1 h with rfl | h
    · exact ⟨f, List.mem_cons_self, rfl⟩
    · obtain ⟨g, hg, he⟩ := ih h
      exact ⟨g, List.mem_cons_of_mem _ hg, he⟩

/-- A value that there is room for is so as a document. -/
theorem within_ofJson {v : Json} (h : v.Fits levels) : (ofJson v).Within levels := by
  induction h with
  | null => exact .null
  | bool => exact .bool
  | string => exact .string
  | number hn =>
    refine .number fun m hm => ?_
    cases hm
    exact hn
  | array _ ih =>
    refine .array fun e he => ?_
    obtain ⟨v, hv, heq⟩ := mem_ofItems he
    exact heq ▸ ih v hv
  | object _ ih =>
    refine .object fun e he => ?_
    obtain ⟨f, hf, heq⟩ := mem_ofFields he
    exact heq ▸ ih f hf

end Document

/-! ## What is read from a text -/

namespace Decoder

open Document (Within)

variable {levels : Nat} {doc : Document}

theorem value_eq_of_scalar {α : Type} {s : Scalar α} {a : α} (h : scalar s = .ok a) :
    s.value = .ok a := by
  unfold scalar at h
  cases hvalue : s.value with
  | error f =>
    rw [hvalue] at h
    cases h
  | ok b =>
    rw [hvalue] at h
    cases h
    rfl

theorem exists_array_of_json {start : Place} {deep : Option Fault} {items : List (Place × Document)}
    {close : Close} {v : Json} (h : json (.array start deep items close) = .ok v) :
    ∃ vs, jsonItems items = .ok vs ∧ v = .array vs := by
  obtain ⟨-, -, h⟩ := Fallible.bind_eq_ok_iff.1 h
  obtain ⟨vs, hvs, h⟩ := Fallible.bind_eq_ok_iff.1 h
  cases close with
  | faulty => cases h
  | closed =>
    cases h
    exact ⟨vs, hvs, rfl⟩

theorem exists_object_of_json {start : Place} {deep : Option Fault}
    {entries : List (Entry Document)} {close : Close} {v : Json}
    (h : json (.object start deep entries close) = .ok v) :
    ∃ fields, jsonEntries entries = .ok fields ∧ v = .object (Fields.ofEntries fields) := by
  obtain ⟨-, -, h⟩ := Fallible.bind_eq_ok_iff.1 h
  obtain ⟨fields, hfields, h⟩ := Fallible.bind_eq_ok_iff.1 h
  cases close with
  | faulty => cases h
  | closed =>
    cases h
    exact ⟨fields, hfields, rfl⟩

theorem mem_of_jsonItems {items : List (Place × Document)} {vs : List Json}
    (h : jsonItems items = .ok vs) : ∀ v ∈ vs, ∃ e ∈ items, json e.2 = .ok v := by
  induction items generalizing vs with
  | nil =>
    cases h
    exact List.forall_mem_nil _
  | cons item items ih =>
    obtain ⟨v, hv, h⟩ := Fallible.bind_eq_ok_iff.1 h
    obtain ⟨vs', hvs, h⟩ := Fallible.bind_eq_ok_iff.1 h
    cases h
    refine List.forall_mem_cons.2 ⟨⟨item, List.mem_cons_self, hv⟩, fun w hw => ?_⟩
    obtain ⟨e, he, hread⟩ := ih hvs w hw
    exact ⟨e, List.mem_cons_of_mem _ he, hread⟩

theorem mem_of_jsonEntries {entries : List (Entry Document)} {fields : List (String × Json)}
    (h : jsonEntries entries = .ok fields) :
    ∀ f ∈ fields, ∃ e ∈ entries, json e.value = .ok f.2 := by
  induction entries generalizing fields with
  | nil =>
    cases h
    exact List.forall_mem_nil _
  | cons entry entries ih =>
    obtain ⟨k, -, h⟩ := Fallible.bind_eq_ok_iff.1 h
    obtain ⟨v, hv, h⟩ := Fallible.bind_eq_ok_iff.1 h
    obtain ⟨fields', hfields, h⟩ := Fallible.bind_eq_ok_iff.1 h
    cases h
    refine List.forall_mem_cons.2 ⟨⟨entry, List.mem_cons_self, hv⟩, fun f hf => ?_⟩
    obtain ⟨e, he, hread⟩ := ih hfields f hf
    exact ⟨e, List.mem_cons_of_mem _ he, hread⟩

/-- What is read from a text fits into a text. -/
theorem fits_of_json (hdoc : doc.Within levels) {v : Json} (h : json doc = .ok v) :
    v.Fits levels := by
  induction hdoc generalizing v with
  | null =>
    cases h
    exact .null
  | bool =>
    cases h
    exact .bool _
  | number hn =>
    obtain ⟨n, hvalue, rfl⟩ := Fallible.map_eq_ok_iff.1 h
    exact .number (hn n (value_eq_of_scalar hvalue))
  | string =>
    obtain ⟨s, -, rfl⟩ := Fallible.map_eq_ok_iff.1 h
    exact .string s
  | array _ ih =>
    obtain ⟨vs, hvs, rfl⟩ := exists_array_of_json h
    refine .array fun v hv => ?_
    obtain ⟨e, he, hread⟩ := mem_of_jsonItems hvs v hv
    exact ih e he hread
  | object _ ih =>
    obtain ⟨fields, hfields, rfl⟩ := exists_object_of_json h
    refine .object fun f hf => ?_
    obtain ⟨e, he, hread⟩ := mem_of_jsonEntries hfields f (Fields.mem_ofEntries hf)
    exact ih e he hread
  | deepArray | deepObject | broken => cases h

theorem fits_of_fields (hdoc : doc.Within levels) {fields : Fields}
    (h : Decoder.fields doc = .ok fields) : (Json.object fields).Fits levels := by
  unfold Decoder.fields at h
  split at h
  · obtain ⟨v, hv, hobject⟩ := Fallible.bind_eq_ok_iff.1 h
    have hfits := fits_of_json hdoc hv
    obtain ⟨_, -, rfl⟩ := exists_object_of_json hv
    cases hobject
    exact hfits
  · cases h

theorem eq_ok_of_whole {α : Type} {d : Decoder α} {read : Document × Option Fault} {a : α}
    (h : d.whole read = .ok a) : d read.1 = .ok a := by
  obtain ⟨doc, rest⟩ := read
  rw [whole] at h
  split at h
  · cases h
  · next hread =>
    cases rest with
    | none => exact hread.trans h
    | some f => cases h

/-- What is read from bytes is read from a document nested as deep as a reader follows. -/
theorem exists_within_of_ofBytes {α : Type} {d : Decoder α} {bytes : List UInt8} {a : α}
    (h : ofBytes d bytes = .ok a) : ∃ doc, doc.Within 127 ∧ d doc = .ok a :=
  ⟨_, Document.within_ofBytes bytes, eq_ok_of_whole h⟩

end Decoder
end KitchenFlow
