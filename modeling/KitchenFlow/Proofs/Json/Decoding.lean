import KitchenFlow.Proofs.Json.Values
import KitchenFlow.Proofs.Time.Timestamp
import Mathlib.Algebra.Ring.Int.Defs

/-!
# What decoders read

A document stands for a value if it has no faults that a reader would meet, wherever its parts may
be placed: the value itself does, and so does a text of it. A decoder reads something from a value
if it does so from every document that stands for the value. There is one lemma for each decoder,
and a record is read field by field:

    Document.StandsFor    a document of a value
    Decoder.Reads         what a decoder makes of a value
    Record.Builds         what a record makes of fields
    Record.reads_decode   the decoder of a record, by its fields
-/

namespace KitchenFlow

namespace Document

mutual

/-- A document that a reader takes for a value. -/
inductive StandsFor : Document → Json → Prop where
  | null {extent : Extent} : StandsFor (.null extent) .null
  | bool {b : Bool} {extent : Extent} : StandsFor (.bool b extent) (.bool b)
  | number {s : Scalar JsonNumber} {extent : Extent} {n : JsonNumber} :
    s.value = .ok n → StandsFor (.number s extent) (.number n)
  | string {t : Scalar String} {extent : Extent} {s : String} :
    t.value = .ok s → StandsFor (.string t extent) (.string s)
  | array {start stop : Place} {items : List (Place × Document)} {vs : List Json} :
    ItemsStandFor items vs → StandsFor (.array start none items (.closed stop)) (.array vs)
  | object {start stop : Place} {entries : List (Entry Document)} {fields : Fields} :
    EntriesStandFor entries fields →
      StandsFor (.object start none entries (.closed stop)) (.object fields)

/-- Elements that a reader takes for values. -/
inductive ItemsStandFor : List (Place × Document) → List Json → Prop where
  | nil : ItemsStandFor [] []
  | cons {p : Place} {d : Document} {v : Json} {items : List (Place × Document)}
    {vs : List Json} : StandsFor d v → ItemsStandFor items vs →
      ItemsStandFor ((p, d) :: items) (v :: vs)

/-- Entries that a reader takes for fields. -/
inductive EntriesStandFor : List (Entry Document) → Fields → Prop where
  | nil : EntriesStandFor [] []
  | cons {t : Scalar String} {k : String} {p : Place} {d : Document} {v : Json}
    {entries : List (Entry Document)} {fields : Fields} : t.value = .ok k → StandsFor d v →
      EntriesStandFor entries fields → EntriesStandFor (⟨t, p, d⟩ :: entries) ((k, v) :: fields)

end

mutual

/-- A value as a document stands for itself. -/
theorem standsFor_ofJson : ∀ v : Json, (ofJson v).StandsFor v
  | .null => .null
  | .bool _ => .bool
  | .number _ => .number rfl
  | .string _ => .string rfl
  | .array vs => .array (itemsStandFor_ofItems vs)
  | .object fields => .object (entriesStandFor_ofFields fields)

theorem itemsStandFor_ofItems : ∀ vs : List Json, ItemsStandFor (ofItems vs) vs
  | [] => .nil
  | v :: vs => .cons (standsFor_ofJson v) (itemsStandFor_ofItems vs)

theorem entriesStandFor_ofFields : ∀ fields : Fields, EntriesStandFor (ofFields fields) fields
  | [] => .nil
  | (_, v) :: fields => .cons rfl (standsFor_ofJson v) (entriesStandFor_ofFields fields)

end

/-- The parts of a list or an object, unless it is nested too deep to be read. -/
def parts : Document → List Document
  | .array _ none items _ => items.map (·.2)
  | .object _ none entries _ => entries.map (·.value)
  | _ => []

end Document

open Document

namespace Decoder

variable {α β : Type} {d : Decoder α} {v : Json} {a : α}

/-- A decoder reads this from every document of a value. -/
def Reads (d : Decoder α) (v : Json) (a : α) : Prop :=
  ∀ ⦃doc : Document⦄, doc.StandsFor v → d doc = .ok a

theorem Reads.ofJson (h : d.Reads v a) : Decoder.ofJson d v = .ok a := h (standsFor_ofJson v)

theorem eq_none_of_notDeep {deep : Option Fault} {u : Unit} (h : notDeep deep = .ok u) :
    deep = none := by
  cases deep with
  | none => rfl
  | some f => cases h

/-! ## Scalars -/

theorem reads_string (s : String) : Decoder.string.Reads (.string s) s := by
  rintro _ ⟨⟩
  next h => rw [string, scalar, h]; rfl

theorem reads_bool (b : Bool) : Decoder.bool.Reads (.bool b) b := by
  rintro _ ⟨⟩
  rfl

theorem reads_int64 {n : Int} (hlow : -2 ^ 63 ≤ n) (hhigh : n < 2 ^ 63) :
    int64.Reads (.number (.int n)) n := by
  have hpow : Int.pow 2 63 = 9223372036854775808 := rfl
  rintro _ ⟨⟩
  next h =>
    rw [int64, integer, scalar, h]
    exact if_pos (by omega)

theorem reads_binary64 {n : JsonNumber} {x : Binary64} (hx : n.toBinary64 = x) :
    binary64.Reads (.number n) x := by
  rintro _ ⟨⟩
  next h => rw [binary64, scalar, h, ← hx]; rfl

theorem reads_variant {names : List String} {ofName : String → Option α} {name : String}
    (h : ofName name = some a) : (variant names ofName).Reads (.string name) a := by
  rintro _ ⟨⟩
  next hname =>
    rw [variant, variantOf, scalar, hname]
    show variantOf.pick names ofName name _ = _
    rw [variantOf.pick, h]

theorem reads_single {n : JsonNumber} {x : Binary64} (hx : n.toSingle = x) :
    single.Reads (.number n) x := by
  rintro _ ⟨⟩
  next h => rw [single, scalar, h, ← hx]; rfl

theorem reads_timestamp {t : Instant} (ht : t.Proper) :
    timestamp.Reads (.string (Timestamp.render t)) t := by
  have hparse := Timestamp.parse_render ht
  generalize Timestamp.render t = text at hparse ⊢
  rintro _ ⟨⟩
  next h =>
    rw [timestamp, scalar, h]
    dsimp only [Except.mapError, bind, Except.bind]
    rw [hparse]

/-! ## Optional values and lists -/

theorem reads_none (d : Decoder α) : (optional d).Reads .null none := by
  rintro _ ⟨⟩
  rfl

theorem Reads.some (h : d.Reads v a) (hv : v.isNull = false) :
    (optional d).Reads v (some a) := by
  intro doc hdoc
  have hread := h hdoc
  cases hdoc with
  | null => cases hv
  | bool | number | string | array | object => exact Fallible.map_eq_ok_iff.2 ⟨a, hread, rfl⟩

theorem reads_ofOption {f : α → Json} {o : Option α}
    (h : ∀ a ∈ o, d.Reads (f a) a ∧ (f a).isNull = false) :
    (optional d).Reads (.ofOption f o) o := by
  cases o with
  | none => exact reads_none d
  | some a => exact (h a rfl).1.some (h a rfl).2

theorem reads_ofOption_string (s : Option String) :
    (optional Decoder.string).Reads (.ofOption .string s) s :=
  reads_ofOption fun s _ => ⟨reads_string s, rfl⟩

/-- A list of values, each of which is read. -/
theorem reads_list {vs : List Json} {as : List α} (h : List.Forall₂ d.Reads vs as) :
    (list d).Reads (.array vs) as := by
  have hgo : ∀ {items}, ItemsStandFor items vs → each d items = .ok as := by
    induction h with
    | nil =>
      rintro _ ⟨⟩
      rfl
    | cons ha _ ih =>
      rintro _ ⟨⟩
      next hd hitems =>
        rw [each, ha hd, ih hitems]
        rfl
  rintro _ ⟨⟩
  next hitems =>
    show (each d _ >>= _) = _
    rw [hgo hitems]
    rfl

/-! ## Any values -/

mutual

/-- A value in normal form is read as it is. -/
theorem reads_json : ∀ {v : Json}, v.Normal → Decoder.Reads json v v
  | .null, _, _, .null => rfl
  | .bool _, _, _, .bool => rfl
  | .number _, _, _, .number h => by rw [json, scalar, h]; rfl
  | .string _, _, _, .string h => by rw [json, scalar, h]; rfl
  | .array _, hv, _, .array hitems => by
    rw [json, jsonItems_eq hv hitems]
    rfl
  | .object _, hv, _, .object hentries => by
    rw [json, jsonEntries_eq hv.2 hentries]
    show Except.ok (Json.object (Fields.ofEntries _)) = _
    rw [Fields.ofEntries_eq hv.1]

theorem jsonItems_eq : ∀ {vs : List Json} {items : List (Place × Document)}, Json.NormalItems vs →
    ItemsStandFor items vs → jsonItems items = .ok vs
  | _, _, _, .nil => rfl
  | _, _, hvs, .cons hd hitems => by
    rw [jsonItems, reads_json hvs.1 hd, jsonItems_eq hvs.2 hitems]
    rfl

theorem jsonEntries_eq : ∀ {fields : Fields} {entries : List (Entry Document)},
    Json.NormalFields fields → EntriesStandFor entries fields → jsonEntries entries = .ok fields
  | _, _, _, .nil => rfl
  | _, _, hfields, .cons hk hd hentries => by
    rw [jsonEntries, scalar, hk, reads_json hfields.1 hd, jsonEntries_eq hfields.2 hentries]
    rfl

end

theorem reads_fields {fields : Fields} (h : (Json.object fields).Normal) :
    Decoder.fields.Reads (.object fields) fields := by
  intro doc hdoc
  have hread := reads_json h hdoc
  cases hdoc with
  | object =>
    rw [Decoder.fields, hread]
    rfl

/-- Fields that were read are normal. -/
theorem normal_of_fields {doc : Document} {fields : Fields} (h : Decoder.fields doc = .ok fields) :
    (Json.object fields).Normal := by
  unfold Decoder.fields at h
  split at h
  · obtain ⟨v, hv, h⟩ := Fallible.bind_eq_ok_iff.1 h
    have hnormal := normal_of_json _ hv
    split at h
    · cases h
      exact hnormal
    · cases h
      exact ⟨List.Pairwise.nil, trivial⟩
  · cases h

end Decoder

/-! ## Records -/

namespace Record

variable {α β : Type} {r : Record α} {fields : Fields} {name : String} {a : α} {v : Json}

/-- A record builds this from documents of the fields. -/
def Builds (r : Record α) (fields : Fields) (a : α) : Prop :=
  ∀ ⦃slot : String → Option Document⦄ ⦃absent : String → DecodeError⦄,
    (∀ name, Option.Rel StandsFor (slot name) (fields.get? name)) → r.build slot absent = .ok a

theorem Builds.map (h : r.Builds fields a) (f : α → β) : (f <$> r).Builds fields (f a) := by
  intro slot absent hslot
  show (r.build slot absent).map f = _
  rw [h hslot]
  rfl

theorem Builds.seq {f : Record (α → β)} {g : α → β} (hf : f.Builds fields g)
    (h : r.Builds fields a) : (f <*> r).Builds fields (g a) := by
  intro slot absent hslot
  show (f.build slot absent >>= fun g => r.build slot absent >>= fun a => .ok (g a)) = _
  rw [hf hslot, h hslot]
  rfl

theorem builds_required {d : Decoder α} (hv : fields.get? name = some v) (h : d.Reads v a) :
    (required name d).Builds fields a := by
  intro slot absent hslot
  have hrel := hslot name
  rw [hv] at hrel
  rw [required]
  dsimp only
  generalize slot name = found at hrel
  cases hrel with
  | some hdoc => exact h hdoc

theorem builds_withDefault {d : Decoder α} (default : α) (hv : fields.get? name = some v)
    (h : d.Reads v a) : (withDefault name default d).Builds fields a := by
  intro slot absent hslot
  have hrel := hslot name
  rw [hv] at hrel
  rw [withDefault]
  dsimp only
  generalize slot name = found at hrel
  cases hrel with
  | some hdoc => exact h hdoc

theorem builds_absent {d : Decoder α} (default : α) (hv : fields.get? name = none) :
    (withDefault name default d).Builds fields default := by
  intro slot absent hslot
  have hrel := hslot name
  rw [hv] at hrel
  rw [withDefault]
  dsimp only
  generalize slot name = found at hrel
  cases hrel
  rfl

/-- A field of the record that passes its check. -/
def Accepts (r : Record α) (e : String × Json) : Prop :=
  ∃ check, r.fields.lookup e.1 = some check ∧ check.Reads e.2 ()

/-- A field is checked by reading it. -/
theorem accepts_of_reads {β : Type} {d : Decoder β} {b : β}
    (hlookup : r.fields.lookup name = some fun doc => (d doc).map fun _ => ())
    (h : d.Reads v b) : r.Accepts (name, v) := by
  refine ⟨_, hlookup, fun doc hdoc => ?_⟩
  rw [h hdoc]
  rfl

/-- Entries of distinct fields that pass their checks are all found. -/
theorem exists_checkEntries {entries : List (Entry Document)}
    (hentries : EntriesStandFor entries fields) (hnodup : (fields.map Prod.fst).Nodup)
    (haccepts : ∀ e ∈ fields, r.Accepts e) (seen : List String)
    (hseen : ∀ e ∈ fields, e.1 ∉ seen) :
    ∃ found, r.checkEntries seen entries = .ok found ∧
      ∀ name, Option.Rel StandsFor (found.lookup name) (fields.get? name) := by
  induction fields generalizing entries seen with
  | nil =>
    cases hentries
    exact ⟨[], rfl, fun _ => .none⟩
  | cons e fields ih =>
    obtain ⟨k, v⟩ := e
    rw [List.map_cons, List.nodup_cons] at hnodup
    obtain ⟨⟨check, hlookup, hcheck⟩, hrest⟩ := List.forall_mem_cons.1 haccepts
    obtain ⟨hk, hothers⟩ := List.forall_mem_cons.1 hseen
    cases hentries with
    | @cons t _ p d _ entries _ hkey hd hentries =>
      obtain ⟨found, hfound, hrel⟩ := ih hentries hnodup.2 hrest (k :: seen) fun e he => by
        rw [List.mem_cons, not_or]
        exact ⟨fun heq => hnodup.1 (List.mem_map.2 ⟨e, he, heq⟩), hothers e he⟩
      refine ⟨(k, d) :: found, ?_, fun name => ?_⟩
      · rw [checkEntries, Decoder.scalar, hkey]
        dsimp only [bind, Except.bind, Except.mapError]
        rw [hlookup]
        dsimp only
        rw [if_neg (by simpa using hk), hcheck hd, hfound]
      · rw [Fields.get?_cons, List.lookup_cons]
        by_cases hname : name = k
        · rw [if_pos hname, hname, beq_self_eq_true]
          exact .some hd
        · rw [if_neg hname, beq_false_of_ne hname]
          exact hrel name

/-- A record is read from an object of its fields. -/
theorem reads_decode (what : String) (hnodup : (fields.map Prod.fst).Nodup)
    (haccepts : ∀ e ∈ fields, r.Accepts e) (hbuilds : r.Builds fields a) :
    (r.decode what).Reads (.object fields) a := by
  rintro _ ⟨⟩
  next hentries =>
    obtain ⟨found, hfound, hrel⟩ :=
      exists_checkEntries hentries hnodup haccepts [] fun _ _ => List.not_mem_nil
    show (r.checkEntries [] _ >>= _) = _
    rw [hfound]
    exact hbuilds hrel

/-! ### Field by field -/

/-- A record takes fields: it is built from them, and those that it asks for pass their checks. -/
structure Takes (r : Record α) (fields : Fields) (a : α) : Prop where
  builds : r.Builds fields a
  checks : ∀ e ∈ r.fields, ∀ v, fields.get? e.1 = some v → e.2.Reads v ()

theorem Takes.map (h : r.Takes fields a) (f : α → β) : (f <$> r).Takes fields (f a) :=
  ⟨h.builds.map f, h.checks⟩

theorem Takes.seq {f : Record (α → β)} {g : α → β} (hf : f.Takes fields g)
    (h : r.Takes fields a) : (f <*> r).Takes fields (g a) :=
  ⟨hf.builds.seq h.builds, List.forall_mem_append.2 ⟨hf.checks, h.checks⟩⟩

theorem takes_required {d : Decoder α} (hv : fields.get? name = some v) (h : d.Reads v a) :
    (required name d).Takes fields a := by
  refine ⟨builds_required hv h, List.forall_mem_singleton.2 fun w hw doc hdoc => ?_⟩
  rw [hv] at hw
  cases hw
  exact Fallible.map_eq_ok_iff.2 ⟨a, h hdoc, rfl⟩

/-- A field that may be absent is taken as it is, or as absent. -/
theorem takes_optional {d : Decoder α} {f : α → Json} {o : Option α}
    (hv : fields.get? name = o.map f) (h : ∀ a ∈ o, d.Reads (f a) a ∧ (f a).isNull = false) :
    (optional name d).Takes fields o := by
  cases o with
  | none =>
    refine ⟨builds_absent _ hv, List.forall_mem_singleton.2 fun w hw => ?_⟩
    rw [hv] at hw
    cases hw
  | some a =>
    have hread := (h a rfl).1.some (h a rfl).2
    refine ⟨builds_withDefault _ hv hread, List.forall_mem_singleton.2 fun w hw doc hdoc => ?_⟩
    rw [hv] at hw
    cases hw
    exact Fallible.map_eq_ok_iff.2 ⟨some a, hread hdoc, rfl⟩

/-- A field that is there is taken as what is read from it. -/
theorem takes_withDefault {d : Decoder α} (default : α) (hv : fields.get? name = some v)
    (h : d.Reads v a) : (withDefault name default d).Takes fields a := by
  refine ⟨builds_withDefault default hv h, List.forall_mem_singleton.2 fun w hw doc hdoc => ?_⟩
  rw [hv] at hw
  cases hw
  exact Fallible.map_eq_ok_iff.2 ⟨a, h hdoc, rfl⟩

/-- All that counts is what stands under each key. -/
theorem Takes.congr {fields' : Fields} (h : r.Takes fields a)
    (hsame : ∀ name, fields'.get? name = fields.get? name) : r.Takes fields' a := by
  refine ⟨fun slot absent hslot => h.builds fun name => ?_, fun e he v hv => h.checks e he v ?_⟩
  · rw [← hsame]
    exact hslot name
  · rw [← hsame]
    exact hv

/-- A record that takes all fields of an object is read from it. -/
theorem Takes.reads_object (h : r.Takes fields a) (what : String)
    (hnodup : (fields.map Prod.fst).Nodup) (hkeys : ∀ e ∈ fields, e.1 ∈ r.names) :
    (r.decode what).Reads (.object fields) a := by
  refine Record.reads_decode what hnodup (fun e he => ?_) h.builds
  obtain ⟨⟨name, check⟩, hmem, hname⟩ := List.mem_map.1 (hkeys e he)
  cases hlookup : r.fields.lookup e.1 with
  | none =>
    have hne := List.lookup_eq_none_iff.1 hlookup _ hmem
    rw [← hname, bne_self_eq_false] at hne
    cases hne
  | some check =>
    obtain ⟨before, after, hfields, -⟩ := List.lookup_eq_some_iff.1 hlookup
    have hcheck : (e.1, check) ∈ r.fields := by
      rw [hfields]
      exact List.mem_append_right _ List.mem_cons_self
    exact ⟨check, hlookup, h.checks _ hcheck _ (Fields.get?_of_mem hnodup he)⟩

theorem Takes.reads_decode (h : r.Takes fields a) (what : String) (hordered : fields.Ordered)
    (hkeys : ∀ e ∈ fields, e.1 ∈ r.names) : (r.decode what).Reads (.object fields) a :=
  h.reads_object what hordered.nodup hkeys

/-- A record that takes sorted values is read from them when their keys are sorted as well. -/
theorem Takes.reads_sorted (h : r.Takes (fields.map fun e => (e.1, e.2.sorted)) a) (what : String)
    (hkeys : ∀ e ∈ fields, e.1 ∈ r.names) :
    (r.decode what).Reads (Json.object fields).sorted a := by
  have hsame (name : String) : (Json.sortedFields fields).get? name =
      Fields.get? (fields.map fun e => (e.1, e.2.sorted)) name := by
    rw [Json.get?_sortedFields, Fields.get?_map Json.sorted]
  refine (h.congr hsame).reads_decode what (Json.ordered_sortedFields fields) fun e he => ?_
  obtain ⟨f, hf, rfl⟩ := Json.mem_sortedFields he
  exact hkeys f hf

/-- Entries have passed the checks of their fields. -/
theorem check_of_checkEntries {seen : List String} {found : List (String × Document)}
    (h : r.checkEntries seen (ofFields fields) = .ok found) {e : String × Json} (he : e ∈ fields)
    {check : Decoder Unit} (hlookup : r.fields.lookup e.1 = some check) :
    check (.ofJson e.2) = .ok () := by
  induction fields generalizing seen found with
  | nil => cases he
  | cons f fields ih =>
    obtain ⟨k, v⟩ := f
    obtain ⟨key, hkey, h⟩ := Fallible.bind_eq_ok_iff.1 h
    cases hkey
    rcases List.mem_cons.1 he with rfl | he
    · dsimp only at h hlookup
      rw [hlookup] at h
      dsimp only at h
      split at h
      · cases h
      · obtain ⟨u, hcheck, -⟩ := Fallible.bind_eq_ok_iff.1 h
        exact hcheck
    · split at h
      · obtain ⟨-, -, h⟩ := Fallible.bind_eq_ok_iff.1 h
        exact ih h he
      · split at h
        · cases h
        · obtain ⟨-, -, h⟩ := Fallible.bind_eq_ok_iff.1 h
          obtain ⟨rest, hrest, -⟩ := Fallible.bind_eq_ok_iff.1 h
          exact ih hrest he

/-- The fields of a record that is read from an object have passed their checks. -/
theorem check_of_decode {what : String} (h : r.decode what (.ofJson (.object fields)) = .ok a)
    {e : String × Json} (he : e ∈ fields) {check : Decoder Unit}
    (hlookup : r.fields.lookup e.1 = some check) : check (.ofJson e.2) = .ok () := by
  obtain ⟨-, -, h⟩ := Fallible.bind_eq_ok_iff.1 h
  obtain ⟨found, hfound, -⟩ := Fallible.bind_eq_ok_iff.1 h
  exact check_of_checkEntries hfound he hlookup

theorem mem_of_checkEntries {seen : List String} {entries : List (Entry Document)}
    {found : List (String × Document)} (h : r.checkEntries seen entries = .ok found) :
    ∀ e ∈ found, e.2 ∈ entries.map (·.value) := by
  induction entries generalizing seen found with
  | nil =>
    cases h
    exact List.forall_mem_nil _
  | cons entry entries ih =>
    obtain ⟨key, -, h⟩ := Fallible.bind_eq_ok_iff.1 h
    split at h
    · obtain ⟨-, -, h⟩ := Fallible.bind_eq_ok_iff.1 h
      exact fun e he => List.mem_cons_of_mem _ (ih h e he)
    · split at h
      · cases h
      · obtain ⟨-, -, h⟩ := Fallible.bind_eq_ok_iff.1 h
        obtain ⟨rest, hrest, h⟩ := Fallible.bind_eq_ok_iff.1 h
        cases h
        exact List.forall_mem_cons.2
          ⟨List.mem_cons_self, fun e he => List.mem_cons_of_mem _ (ih hrest e he)⟩

theorem mem_of_checkItems {checks : List (String × Decoder Unit)} {items : List (Place × Document)}
    {found : List (String × Document)} (h : checkItems checks items = .ok found) :
    ∀ e ∈ found, e.2 ∈ items.map (·.2) := by
  induction checks generalizing items found with
  | nil =>
    cases h
    exact List.forall_mem_nil _
  | cons check checks ih =>
    cases items with
    | nil =>
      cases h
      exact List.forall_mem_nil _
    | cons item items =>
      obtain ⟨-, -, h⟩ := Fallible.bind_eq_ok_iff.1 h
      obtain ⟨rest, hrest, h⟩ := Fallible.bind_eq_ok_iff.1 h
      cases h
      exact List.forall_mem_cons.2
        ⟨List.mem_cons_self, fun e he => List.mem_cons_of_mem _ (ih hrest e he)⟩

/-- Whatever a record is read from, it was built from parts of it. -/
theorem exists_build {what : String} {doc : Document} (h : r.decode what doc = .ok a) :
    ∃ slot absent, r.build slot absent = .ok a ∧
      ∀ name part, slot name = some part → part ∈ doc.parts := by
  have hparts {found : List (String × Document)} {parts : List Document}
      (hmem : ∀ e ∈ found, e.2 ∈ parts) (name : String) (part : Document)
      (hpart : found.lookup name = some part) : part ∈ parts := by
    obtain ⟨before, after, hfound, -⟩ := List.lookup_eq_some_iff.1 hpart
    exact hmem (name, part) (by simp [hfound])
  unfold decode decodeAs at h
  split at h
  · obtain ⟨_, hdeep, hrest⟩ := Fallible.bind_eq_ok_iff.1 h
    cases Decoder.eq_none_of_notDeep hdeep
    obtain ⟨found, hfound, hbuild⟩ := Fallible.bind_eq_ok_iff.1 hrest
    split at hbuild
    · cases hbuild
    · exact ⟨_, _, hbuild, hparts (mem_of_checkEntries hfound)⟩
  · have hbuilt {x : Except DecodeError α} {checked : Except DecodeError Unit}
        (h : (x >>= fun a => checked >>= fun _ => .ok a) = .ok a) : x = .ok a := by
      obtain ⟨b, hb, h⟩ := Fallible.bind_eq_ok_iff.1 h
      obtain ⟨-, -, h⟩ := Fallible.bind_eq_ok_iff.1 h
      cases h
      exact hb
    obtain ⟨_, hdeep, hrest⟩ := Fallible.bind_eq_ok_iff.1 h
    cases Decoder.eq_none_of_notDeep hdeep
    obtain ⟨found, hfound, hbuild⟩ := Fallible.bind_eq_ok_iff.1 hrest
    dsimp only at hbuild
    split at hbuild
    · split at hbuild
      · cases hbuild
      · exact ⟨_, _, hbuilt hbuild, hparts (mem_of_checkItems hfound)⟩
    · exact ⟨_, _, hbuilt hbuild, hparts (mem_of_checkItems hfound)⟩
  · cases h

end Record
end KitchenFlow
