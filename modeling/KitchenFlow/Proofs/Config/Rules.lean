import KitchenFlow.Config.Normal
import KitchenFlow.Proofs.Fallible
import KitchenFlow.Proofs.Json.Values
import KitchenFlow.Proofs.Number

/-!
# The rules of the fields

What a field of a configuration may hold, and what it becomes in the normal form, is said here by a
relation with one case for each way in which a field can be in order. The normal form of a whole
configuration is made field by field, so it exists if all fields are in order, and otherwise the
first one that is not is at fault:

    FieldSpec.Becomes              the rule of a field
    Config.normalField_eq_ok_iff   the normal form of a field follows the rule
    Config.get?_normalise          each field of a normal form is that of its own rule
    Config.normalise_eq_error_iff  the first field that is not in order is at fault
-/

namespace KitchenFlow

open Fallible

namespace Config

/-- The number that a value means: it is this number, or a numeral of it, blanks around it or
not. -/
inductive MeansNumber : Json → Binary64 → Prop where
  | number (n : JsonNumber) : MeansNumber (.number n) n.toBinary64
  | numeral {s x} : Binary64.ofText? (Text.trim s) = some x → MeansNumber (.string s) x

/-- The text that a value means: it is this text, or a number or a truth value written so. -/
inductive MeansText : Json → String → Prop where
  | string (s : String) : MeansText (.string s) s
  | number (n : JsonNumber) : MeansText (.number n) n.render
  | bool (b : Bool) : MeansText (.bool b) (if b then "true" else "false")

end Config

open Config

/-- Fields of this type hold text. -/
def FieldType.IsText (t : FieldType) : Prop := t ≠ .number ∧ t ≠ .boolean

instance (t : FieldType) : Decidable t.IsText := by unfold FieldType.IsText; infer_instance

namespace FieldSpec

/-- The rule of a field: what it may hold, and what this becomes in the normal form. What becomes
`none` is left out. -/
inductive Becomes [UrlReader] (spec : FieldSpec) : Option Json → Option Json → Prop where
  | absent : spec.required = false → Becomes spec none none
  | null : spec.required = false → Becomes spec (some .null) none
  | number {v x} : spec.type = .number → MeansNumber v x → x.isFinite = true →
    Binary64.zero.ble x = true → Becomes spec (some v) (some (.number (.float x)))
  | boolean {b} : spec.type = .boolean → Becomes spec (some (.bool b)) (some (.bool b))
  | blank {v text} : spec.type.IsText → MeansText v text → Text.isBlank text = true →
    spec.required = false → Becomes spec (some v) none
  | option {v text o} : spec.type = .dropdown → MeansText v text → Text.isBlank text = false →
    o ∈ spec.options → Text.sameLetters o (Text.trim text) = true →
    Becomes spec (some v) (some (.string o))
  | text {v text} : spec.type.IsText → spec.type ≠ .dropdown → MeansText v text →
    Text.isBlank text = false →
    (spec.key = urlKey → urlMinimum ≤ text.utf8ByteSize ∧ ∃ url, UrlReader.parse text = .ok url) →
    Becomes spec (some v) (some (.string text))

/-- A choice has options, they differ in more than the case of letters, and a URL is not chosen. -/
structure Sound (spec : FieldSpec) : Prop where
  options : spec.type = .dropdown → spec.options ≠ []
  distinct : ∀ o ∈ spec.options, ∀ o' ∈ spec.options, Text.sameLetters o o' = true → o = o'
  url : spec.key = urlKey → spec.type ≠ .dropdown

end FieldSpec

/-- The fields of the kinds of nodes are sound. -/
theorem NodeKind.sound_of_mem_schema {k : NodeKind} {spec : FieldSpec} (h : spec ∈ k.schema) :
    spec.Sound := by
  have hall : ∀ k : NodeKind, ∀ spec ∈ k.schema, (spec.type = .dropdown → spec.options ≠ []) ∧
      (∀ o ∈ spec.options, ∀ o' ∈ spec.options, Text.sameLetters o o' = true → o = o') ∧
      (spec.key = urlKey → spec.type ≠ .dropdown) := by
    intro k
    cases k <;> decide +kernel
  obtain ⟨hoptions, hdistinct, hurl⟩ := hall k spec h
  exact ⟨hoptions, hdistinct, hurl⟩

/-! ## One field -/

namespace Config

variable {spec : FieldSpec} {v w : Json} {x : Binary64} {s : String}

theorem numberOf?_eq_some_iff : numberOf? v = some x ↔ MeansNumber v x := by
  constructor
  · intro h
    cases v with
    | number n =>
      cases h
      exact .number n
    | string s => exact .numeral h
    | null | bool | array | object => cases h
  · rintro (n | h)
    · rfl
    · exact h

theorem textOf_eq_ok_iff : textOf v = .ok s ↔ MeansText v s := by
  constructor
  · intro h
    cases v with
    | string s =>
      cases h
      exact .string s
    | number n =>
      cases h
      exact .number n
    | bool b =>
      cases h
      exact .bool b
    | null | array | object => cases h
  · rintro (s | n | b) <;> rfl

theorem MeansNumber.isNull (h : MeansNumber v x) : v.isNull = false := by
  cases h <;> rfl

theorem MeansText.isNull (h : MeansText v s) : v.isNull = false := by
  cases h <;> rfl

theorem normalNumber_eq_ok_iff :
    normalNumber v = .ok w ↔ ∃ x, MeansNumber v x ∧ x.isFinite = true ∧
      Binary64.zero.ble x = true ∧ w = .number (.float x) := by
  simp only [← numberOf?_eq_some_iff]
  rw [normalNumber]
  rcases numberOf? v with - | x
  · simp
  cases x with
  | nan | infinite =>
    constructor
    · intro h
      cases h
    · rintro ⟨_, hx, hfinite, -⟩
      cases hx
      cases hfinite
  | finite negative units =>
    rw [Option.filter_some, Binary64.isFinite, if_pos rfl]
    simp only [Option.some.injEq, exists_eq_left', true_and, Binary64.isFinite]
    rw [Binary64.zero, ← Binary64.blt_finite_eq_false_iff]
    cases (Binary64.finite negative units).blt (.finite false 0) <;> simp [eq_comm]

theorem normalBoolean_eq_ok_iff : normalBoolean v = .ok w ↔ ∃ b, v = .bool b ∧ w = .bool b := by
  constructor
  · intro h
    cases v with
    | bool b =>
      cases h
      exact ⟨b, rfl, rfl⟩
    | null | number | string | array | object => cases h
  · rintro ⟨b, rfl, rfl⟩
    rfl

/-- A text is an option if it is the spelling of the one that a text names. -/
theorem option?_eq_some_iff {text : String} (hspec : spec.Sound) :
    option? spec.options text = some s ↔
      s ∈ spec.options ∧ Text.sameLetters s (Text.trim text) = true := by
  rw [option?]
  constructor
  · intro h
    have hsame := List.find?_some h
    exact ⟨List.mem_of_find?_eq_some h, hsame⟩
  · rintro ⟨hmem, hsame⟩
    rcases hfind : spec.options.find? fun o => Text.sameLetters o (Text.trim text) with - | o
    · exact (List.find?_eq_none.1 hfind s hmem hsame).elim
    · have hfound := List.find?_some hfind
      have hletters : Text.sameLetters o s = true := by
        rw [Text.sameLetters_iff] at hfound hsame ⊢
        rw [hfound, hsame]
      rw [hspec.distinct o (List.mem_of_find?_eq_some hfind) s hmem hletters]

theorem chosen_eq_ok_iff {text : String} (hspec : spec.Sound) :
    chosen spec text = .ok s ↔
      if spec.type = .dropdown then
        s ∈ spec.options ∧ Text.sameLetters s (Text.trim text) = true
      else s = text := by
  rw [chosen]
  by_cases htype : spec.type = .dropdown
  · rw [if_pos ⟨htype, hspec.options htype⟩, if_pos htype, ← option?_eq_some_iff hspec]
    cases option? spec.options text <;> simp
  · rw [if_neg fun h => htype h.1, if_neg htype, Except.ok.injEq, eq_comm]

variable [UrlReader]

theorem checkUrl_eq_ok_iff :
    checkUrl s = .ok () ↔ urlMinimum ≤ s.utf8ByteSize ∧ ∃ url, UrlReader.parse s = .ok url := by
  rw [checkUrl]
  split
  · next hshort => simp [Nat.not_le.2 hshort]
  · next hlong =>
    cases UrlReader.parse s <;> simp [Nat.not_lt.1 hlong]

/-- What a text field becomes: a blank one is left out, if it may be, and any other has to be in
order. -/
theorem normalText_eq_ok_iff {w : Option Json} :
    normalText spec v = .ok w ↔ ∃ text, MeansText v text ∧
      if Text.isBlank text = true then spec.required = false ∧ w = none
      else ∃ s, chosen spec text = .ok s ∧
        (spec.key = urlKey → urlMinimum ≤ s.utf8ByteSize ∧ ∃ url, UrlReader.parse s = .ok url) ∧
        w = some (.string s) := by
  rw [normalText, bind_eq_ok_iff]
  simp only [textOf_eq_ok_iff]
  refine exists_congr fun text => and_congr_right fun _ => ?_
  split
  · cases spec.required <;> simp [eq_comm]
  · rw [bind_eq_ok_iff]
    refine exists_congr fun s => and_congr_right fun _ => ?_
    rw [← checkUrl_eq_ok_iff]
    by_cases hkey : spec.key = urlKey
    · simp only [hkey, if_true, bind_eq_ok_iff, true_implies]
      constructor
      · rintro ⟨_, hurl, hw⟩
        exact ⟨hurl, (Except.ok.inj hw).symm⟩
      · rintro ⟨hurl, rfl⟩
        exact ⟨(), hurl, rfl⟩
    · simp only [hkey, if_false, false_implies, true_and]
      constructor
      · intro hw
        exact (Except.ok.inj hw).symm
      · rintro rfl
        rfl

theorem normalField_absent {v : Option Json} (hv : v = none ∨ v = some .null) :
    normalField spec v = if spec.required then .error .missing else .ok none := by
  rcases hv with rfl | rfl <;> rfl

theorem normalField_number (htype : spec.type = .number) (hv : v.isNull = false) :
    normalField spec (some v) = (normalNumber v).map some := by
  cases v with
  | null => cases hv
  | bool | number | string | array | object => simp [normalField, htype]

theorem normalField_boolean (htype : spec.type = .boolean) (hv : v.isNull = false) :
    normalField spec (some v) = (normalBoolean v).map some := by
  cases v with
  | null => cases hv
  | bool | number | string | array | object => simp [normalField, htype]

theorem normalField_text (htype : spec.type.IsText) (hv : v.isNull = false) :
    normalField spec (some v) = normalText spec v := by
  cases v with
  | null => cases hv
  | bool | number | string | array | object =>
    rw [normalField]
    split
    · next hnumber => exact (htype.1 hnumber).elim
    · next hboolean => exact (htype.2 hboolean).elim
    · rfl
    · simp

/-- What the normal form makes of a field is allowed by its rule. -/
theorem becomes_of_normalField {w : Option Json} (hspec : spec.Sound) (hv : v.isNull = false)
    (h : normalField spec (some v) = .ok w) : spec.Becomes (some v) w := by
  by_cases hnumber : spec.type = .number
  · rw [normalField_number hnumber hv, map_eq_ok_iff] at h
    obtain ⟨w, hw, rfl⟩ := h
    obtain ⟨x, hx, hfinite, hzero, rfl⟩ := normalNumber_eq_ok_iff.1 hw
    exact .number hnumber hx hfinite hzero
  by_cases hboolean : spec.type = .boolean
  · rw [normalField_boolean hboolean hv, map_eq_ok_iff] at h
    obtain ⟨w, hw, rfl⟩ := h
    obtain ⟨b, rfl, rfl⟩ := normalBoolean_eq_ok_iff.1 hw
    exact .boolean hboolean
  have htext : spec.type.IsText := ⟨hnumber, hboolean⟩
  rw [normalField_text htext hv, normalText_eq_ok_iff] at h
  obtain ⟨text, hmeans, h⟩ := h
  split at h
  · next hblank =>
    obtain ⟨hrequired, rfl⟩ := h
    exact .blank htext hmeans hblank hrequired
  · next hblank =>
    have hblank : Text.isBlank text = false := Bool.eq_false_iff.2 hblank
    obtain ⟨s, hs, hurl, rfl⟩ := h
    rw [chosen_eq_ok_iff hspec] at hs
    split at hs
    · next hdropdown => exact .option hdropdown hmeans hblank hs.1 hs.2
    · next hdropdown =>
      subst hs
      exact .text htext hdropdown hmeans hblank hurl

/-- What the rule of a field allows is what the normal form makes of it. -/
theorem normalField_of_becomes {v w : Option Json} (hspec : spec.Sound) (h : spec.Becomes v w) :
    normalField spec v = .ok w := by
  cases h with
  | absent hrequired => rw [normalField_absent (.inl rfl), hrequired]; rfl
  | null hrequired => rw [normalField_absent (.inr rfl), hrequired]; rfl
  | number htype hx hfinite hzero =>
    rw [normalField_number htype hx.isNull,
      normalNumber_eq_ok_iff.2 ⟨_, hx, hfinite, hzero, rfl⟩]
    rfl
  | boolean htype =>
    rw [normalField_boolean htype rfl]
    rfl
  | blank htype hmeans hblank hrequired =>
    rw [normalField_text htype hmeans.isNull, normalText_eq_ok_iff]
    exact ⟨_, hmeans, by rw [if_pos hblank]; exact ⟨hrequired, rfl⟩⟩
  | option htype hmeans hblank hmem hsame =>
    have htext : spec.type.IsText := by
      rw [htype]
      decide
    rw [normalField_text htext hmeans.isNull, normalText_eq_ok_iff]
    refine ⟨_, hmeans, ?_⟩
    rw [if_neg (Bool.eq_false_iff.1 hblank)]
    refine ⟨_, (chosen_eq_ok_iff hspec).2 ?_, fun hurl => (hspec.url hurl htype).elim, rfl⟩
    rw [if_pos htype]
    exact ⟨hmem, hsame⟩
  | text htype hdropdown hmeans hblank hurl =>
    rw [normalField_text htype hmeans.isNull, normalText_eq_ok_iff]
    refine ⟨_, hmeans, ?_⟩
    rw [if_neg (Bool.eq_false_iff.1 hblank)]
    exact ⟨_, (chosen_eq_ok_iff hspec).2 (by rw [if_neg hdropdown]), hurl, rfl⟩

/-- The normal form of a field follows its rule. -/
theorem normalField_eq_ok_iff {v w : Option Json} (hspec : spec.Sound) :
    normalField spec v = .ok w ↔ spec.Becomes v w := by
  refine ⟨fun h => ?_, normalField_of_becomes hspec⟩
  have habsent (hv : v = none ∨ v = some .null) : spec.required = false ∧ w = none := by
    rw [normalField_absent hv] at h
    split at h
    · cases h
    · next hrequired => exact ⟨Bool.eq_false_iff.2 hrequired, (Except.ok.inj h).symm⟩
  rcases v with - | v
  · obtain ⟨hrequired, rfl⟩ := habsent (.inl rfl)
    exact .absent hrequired
  cases v with
  | null =>
    obtain ⟨hrequired, rfl⟩ := habsent (.inr rfl)
    exact .null hrequired
  | bool | number | string | array | object => exact becomes_of_normalField hspec rfl h

/-! ## All fields -/

variable {raw done fields : Fields} {specs : List FieldSpec} {key : String} {fault : FieldFault}

theorem normaliseNext_eq_ok_iff :
    normaliseNext raw done spec = .ok fields ↔
      ∃ w, normalField spec (raw.get? spec.key) = .ok w ∧ put done spec.key w = fields := by
  rw [normaliseNext]
  cases normalField spec (raw.get? spec.key) <;> simp

theorem normaliseNext_eq_error_iff :
    normaliseNext raw done spec = .error (key, fault) ↔
      normalField spec (raw.get? spec.key) = .error fault ∧ spec.key = key := by
  rw [normaliseNext]
  cases normalField spec (raw.get? spec.key) <;> simp [and_comm]

/-- The first field is brought into form, and the others on top of it. -/
theorem foldlM_cons_eq_ok_iff :
    (spec :: specs).foldlM (normaliseNext raw) done = .ok fields ↔
      ∃ w, normalField spec (raw.get? spec.key) = .ok w ∧
        specs.foldlM (normaliseNext raw) (put done spec.key w) = .ok fields := by
  rw [List.foldlM_cons, bind_eq_ok_iff]
  simp only [normaliseNext_eq_ok_iff]
  constructor
  · rintro ⟨_, ⟨w, hw, rfl⟩, h⟩
    exact ⟨w, hw, h⟩
  · rintro ⟨w, hw, h⟩
    exact ⟨_, ⟨w, hw, rfl⟩, h⟩

/-- All fields are brought into form if each can be, whatever has been before. -/
theorem exists_foldlM_eq_ok_iff :
    (∃ fields, specs.foldlM (normaliseNext raw) done = .ok fields) ↔
      ∀ spec ∈ specs, ∃ w, normalField spec (raw.get? spec.key) = .ok w := by
  induction specs generalizing done with
  | nil => exact ⟨fun _ _ h => (List.not_mem_nil h).elim, fun _ => ⟨done, rfl⟩⟩
  | cons spec specs ih =>
    rw [List.forall_mem_cons]
    simp only [foldlM_cons_eq_ok_iff]
    constructor
    · rintro ⟨fields, w, hw, hfields⟩
      exact ⟨⟨w, hw⟩, ih.1 ⟨fields, hfields⟩⟩
    · rintro ⟨⟨w, hw⟩, hrest⟩
      obtain ⟨fields, hfields⟩ := ih.2 hrest
      exact ⟨fields, w, hw, hfields⟩

/-- There is a normal form if there is one of each field. -/
theorem exists_normalise_eq_ok_iff :
    (∃ fields, normalise raw specs = .ok fields) ↔
      ∀ spec ∈ specs, ∃ w, normalField spec (raw.get? spec.key) = .ok w :=
  exists_foldlM_eq_ok_iff

theorem foldlM_eq_error_iff :
    specs.foldlM (normaliseNext raw) done = .error (key, fault) ↔
      ∃ before spec after, specs = before ++ spec :: after ∧
        (∀ earlier ∈ before, ∃ w, normalField earlier (raw.get? earlier.key) = .ok w) ∧
        normalField spec (raw.get? spec.key) = .error fault ∧ spec.key = key := by
  induction specs generalizing done with
  | nil =>
    rw [List.foldlM_nil]
    simp [pure, Except.pure]
  | cons first specs ih =>
    rw [exists_first_cons_iff, List.foldlM_cons, bind_eq_error_iff, normaliseNext_eq_error_iff]
    refine or_congr_right ?_
    simp only [normaliseNext_eq_ok_iff]
    constructor
    · rintro ⟨_, ⟨w, hw, rfl⟩, h⟩
      exact ⟨⟨w, hw⟩, ih.1 h⟩
    · rintro ⟨⟨w, hw⟩, h⟩
      exact ⟨_, ⟨w, hw, rfl⟩, ih.2 h⟩

/-- At fault is the first field that has no normal form. -/
theorem normalise_eq_error_iff :
    normalise raw specs = .error (key, fault) ↔
      ∃ before spec after, specs = before ++ spec :: after ∧
        (∀ earlier ∈ before, ∃ w, normalField earlier (raw.get? earlier.key) = .ok w) ∧
        normalField spec (raw.get? spec.key) = .error fault ∧ spec.key = key :=
  foldlM_eq_error_iff

/-- Configurations whose fields all have the same normal form have the same one. -/
theorem normalise_congr {raw' : Fields}
    (h : ∀ spec ∈ specs, normalField spec (raw'.get? spec.key) =
      normalField spec (raw.get? spec.key)) : normalise raw' specs = normalise raw specs := by
  have hfrom (done : Fields) :
      specs.foldlM (normaliseNext raw') done = specs.foldlM (normaliseNext raw) done := by
    induction specs generalizing done with
    | nil => rfl
    | cons spec specs ih =>
      obtain ⟨hspec, hrest⟩ := List.forall_mem_cons.1 h
      simp only [List.foldlM_cons, normaliseNext, hspec, ih hrest]
  exact hfrom []

/-- What has been brought into form stays under the keys that are not among the others. -/
theorem get?_foldlM_of_not_mem (h : specs.foldlM (normaliseNext raw) done = .ok fields)
    (hkey : key ∉ specs.map FieldSpec.key) : fields.get? key = done.get? key := by
  induction specs generalizing done with
  | nil =>
    cases h
    rfl
  | cons spec specs ih =>
    rw [List.map_cons, List.mem_cons, not_or] at hkey
    obtain ⟨w, -, hrest⟩ := foldlM_cons_eq_ok_iff.1 h
    rw [ih hrest hkey.2, get?_put_of_ne hkey.1]

/-- A normal form has declared keys only. -/
theorem get?_normalise_of_not_mem (h : normalise raw specs = .ok fields)
    (hkey : key ∉ specs.map FieldSpec.key) : fields.get? key = none :=
  get?_foldlM_of_not_mem h hkey

theorem get?_foldlM (h : specs.foldlM (normaliseNext raw) done = .ok fields)
    (hnodup : (specs.map FieldSpec.key).Nodup) (hdone : ∀ spec ∈ specs, done.get? spec.key = none)
    (hspec : spec ∈ specs) :
    normalField spec (raw.get? spec.key) = .ok (fields.get? spec.key) := by
  induction specs generalizing done with
  | nil => cases hspec
  | cons first specs ih =>
    rw [List.map_cons, List.nodup_cons] at hnodup
    obtain ⟨w, hw, hrest⟩ := foldlM_cons_eq_ok_iff.1 h
    rcases List.mem_cons.1 hspec with rfl | hspec
    · rw [hw, get?_foldlM_of_not_mem hrest hnodup.1, get?_put_self (hdone spec List.mem_cons_self)]
    · refine ih hrest hnodup.2 (fun other hother => ?_) hspec
      have hne : other.key ≠ first.key := fun heq =>
        hnodup.1 (List.mem_map.2 ⟨other, hother, heq⟩)
      rw [get?_put_of_ne hne, hdone other (List.mem_cons_of_mem _ hother)]

/-- Each field of a normal form is the normal form of that field, if no key is there twice. -/
theorem get?_normalise (h : normalise raw specs = .ok fields)
    (hnodup : (specs.map FieldSpec.key).Nodup) (hspec : spec ∈ specs) :
    normalField spec (raw.get? spec.key) = .ok (fields.get? spec.key) :=
  get?_foldlM h hnodup (fun _ _ => rfl) hspec

theorem ordered_foldlM (h : specs.foldlM (normaliseNext raw) done = .ok fields)
    (hdone : done.Ordered) : fields.Ordered := by
  induction specs generalizing done with
  | nil =>
    cases h
    exact hdone
  | cons spec specs ih =>
    obtain ⟨w, -, hrest⟩ := foldlM_cons_eq_ok_iff.1 h
    refine ih hrest ?_
    cases w with
    | none => exact hdone
    | some w => exact hdone.insert

/-- The keys of a normal form are in ascending order. -/
theorem ordered_normalise (h : normalise raw specs = .ok fields) : fields.Ordered :=
  ordered_foldlM h List.Pairwise.nil

end Config
end KitchenFlow
