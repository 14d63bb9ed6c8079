import KitchenFlow.Proofs.Run.Writes
import KitchenFlow.Proofs.Payload
import KitchenFlow.Proofs.Text

/-!
# Finding again what was written

An update writes under a key of the related data, as it stands; who looks for it names a path, which
is trimmed and cut at its points. So the two meet only at keys that no path cuts or trims:

    Payload.Nameable key             no point in the key, and no blank at its end
    NodeTask.lookup_written_iff      an update is always found again ↔ its key is nameable

At such a key, a later placeholder or condition sees what was written until the key is written
again. At any other key, nothing is found in related data that holds nothing else.
-/

namespace KitchenFlow

namespace Payload

/-- A path can name this key of the related data. -/
def Nameable (key : String) : Prop := '.' ∉ key.toList ∧ Text.trimEnd key.toList = key.toList

instance (key : String) : Decidable (Nameable key) := by unfold Nameable; infer_instance

/-- The path of an entry of the related data. -/
def relatedPath (key : String) : String := "related_data." ++ key

variable {p : Payload} {path key : String} {rest : List String} {v : Json}

/-! ## The keys of a path -/

theorem trim_relatedPath (key : String) :
    Text.trim (relatedPath key) = relatedPath (String.ofList (Text.trimEnd key.toList)) := by
  have hlist : (relatedPath key).toList = "related_data".toList ++ '.' :: key.toList := by
    simp [relatedPath]
  have hstart : Text.trimStart ("related_data".toList ++ '.' :: key.toList) =
      "related_data".toList ++ '.' :: key.toList := Text.trimStart_cons _ (by decide)
  rw [← String.toList_inj, Text.trim, String.toList_ofList, Text.trimChars, hlist, hstart,
    Text.trimEnd_append _ _ (by decide)]
  simp [relatedPath]

theorem keysOf_relatedPath (key : String) :
    keysOf (relatedPath key) =
      "related_data" :: Text.splitAt '.' (String.ofList (Text.trimEnd key.toList)) := by
  rw [keysOf, trim_relatedPath]
  exact Text.splitAt_append "related_data" "." rfl (by decide)

/-- The path of a key names this key and no other, if any. -/
theorem keysOf_relatedPath_eq_iff :
    keysOf (relatedPath key) = "related_data" :: key :: rest ↔ Nameable key ∧ rest = [] := by
  rw [keysOf_relatedPath, List.cons.injEq, Text.splitAt, String.toList_ofList]
  constructor
  · rintro ⟨-, h⟩
    rw [List.map_eq_cons_iff] at h
    obtain ⟨first, more, hsplit, hfirst, hrest⟩ := h
    have hkey : first = key.toList := by rw [← hfirst, String.toList_ofList]
    have hdot : '.' ∉ key.toList :=
      hkey ▸ Text.not_mem_of_mem_splitChars (hsplit ▸ List.mem_cons_self)
    have htrim : '.' ∉ Text.trimEnd key.toList := fun hmem =>
      hdot ((Text.trimEnd_isPrefix _).subset hmem)
    rw [Text.splitChars_of_not_mem htrim] at hsplit
    obtain ⟨hend, rfl⟩ := List.cons.inj hsplit
    exact ⟨⟨hdot, hend.trans hkey⟩, hrest.symm⟩
  · rintro ⟨⟨hdot, hend⟩, rfl⟩
    rw [hend, Text.splitChars_of_not_mem hdot, List.map_singleton, String.ofList_toList]
    exact ⟨rfl, rfl⟩

/-- Blanks around the path of a key make no difference. -/
theorem keysOf_of_trim (hkey : Nameable key) (h : Text.trim path = relatedPath key) :
    keysOf path = ["related_data", key] := by
  have htrim : Text.trim (relatedPath key) = relatedPath key := by
    rw [trim_relatedPath, hkey.2, String.ofList_toList]
  rw [keysOf, h, ← htrim]
  exact keysOf_relatedPath_eq_iff.2 ⟨hkey, rfl⟩

/-! ## Looking up an entry -/

/-- A path that names an entry of the related data finds it, unless it is `null`. -/
theorem lookup_of_keysOf (hpath : keysOf path = ["related_data", key])
    (hget : p.relatedData.get? key = some v) (hv : v.isNull = false) : p.lookup path = some v := by
  have hne : (Text.trim path).isEmpty = false := by
    rw [Bool.eq_false_iff]
    intro hempty
    rw [keysOf, String.isEmpty_iff.1 hempty] at hpath
    simp [Text.splitAt, Text.splitChars] at hpath
  have hroot : p.toJson.follow ["related_data", key] = some v := by
    rw [Json.follow_cons, get?_toJson_related, Option.bind_some, Json.follow_cons]
    exact congrArg (Option.bind · _) hget
  rw [lookup_eq, hne, findSome?_roots, hpath, hroot]
  simp [hv]

/-- Where there is but one entry, a path that leads into the related data finds nothing if its next
key is another one. -/
theorem lookup_of_single (hpath : keysOf path = "related_data" :: rest)
    (hfollow : (Json.object p.relatedData).follow rest = none)
    (hname : p.relatedData.get? "related_data" = none) : p.lookup path = none := by
  have hroot : p.toJson.follow ("related_data" :: rest) = none := by
    rw [Json.follow_cons, get?_toJson_related, Option.bind_some, hfollow]
  have hitem : p.item.toJson.follow ("related_data" :: rest) = none := rfl
  have hrelated : (Json.object p.relatedData).follow ("related_data" :: rest) = none := by
    rw [Json.follow_cons]
    exact congrArg (Option.bind · _) hname
  rw [lookup_eq, findSome?_roots, hpath, hroot, hitem, hrelated]
  simp

/-- A key that no path can name is not found by its own path, if it is the only one. -/
theorem lookup_setRelated_of_not_nameable (hkey : ¬ Nameable key) (hp : p.relatedData = [])
    (v : Json) : (p.setRelated key v).lookup (relatedPath key) = none := by
  have hdata : (p.setRelated key v).relatedData = [(key, v)] := by
    simp [setRelated, hp, Fields.insert]
  have hpath := keysOf_relatedPath key
  rcases hsplit : Text.splitAt '.' (String.ofList (Text.trimEnd key.toList)) with - | ⟨first, rest⟩
  · rw [Text.splitAt, List.map_eq_nil_iff] at hsplit
    exact (Text.splitChars_ne_nil _ _ hsplit).elim
  rw [hsplit] at hpath
  have hfirst : first ≠ key := by
    rintro rfl
    exact hkey (keysOf_relatedPath_eq_iff.1 hpath).1
  have hname : "related_data" ≠ key := by
    rintro rfl
    exact hkey (by decide)
  refine lookup_of_single hpath ?_ ?_
  · rw [hdata, Json.follow_cons]
    simp [Json.get?, Fields.get?_cons, hfirst]
  · rw [hdata, Fields.get?_cons, if_neg hname, Fields.get?_nil]

end Payload

/-! ## Updates -/

/-- An update is always found again by the path of its key if, and only if, that key can be named
by a path. If it can, then whatever else is written later, the value is found by the path, is put
into every hole and is compared in every condition that names the path, blanks around it or not. If
it cannot, nothing is found where nothing else has been written. -/
theorem GraphNode.recalled {n : GraphNode} {c : UpdateDataConfig} (hn : n.config = .updateData c) :
    let key := NodeTask.targetKey c
    let path := Payload.relatedPath key
    (Payload.Nameable key ↔ ∀ (e : Engine) (x : RunContext) (p : Payload) (w : World),
      ((n.config.task.step e x n.id p w).1.apply p).lookup path =
        some (.string (p.render c.value))) ∧
    ∀ (e : Engine) (x : RunContext) (p : Payload) (w : World),
      let written := (n.config.task.step e x n.id p w).1.apply p
      (Payload.Nameable key → ∀ later : Fields, key ∉ later.map Prod.fst →
        (written.setAll later).lookup path = some (.string (p.render c.value)) ∧
        (∀ hole, Text.trim (String.ofList hole) = path →
          (written.setAll later).fill (.hole hole) = p.render c.value) ∧
        ∀ cond : ConditionalBranchConfig, Text.trim cond.checkField = path →
          NodeTask.branch (written.setAll later) cond =
            .ofBool (Condition.evaluate cond.operator (some (.string (p.render c.value)))
              cond.checkValue)) ∧
      (¬ Payload.Nameable key → p.relatedData = [] → written.lookup path = none) := by
  intro key path
  have hwritten (e : Engine) (x : RunContext) (p : Payload) (w : World) :
      (n.config.task.step e x n.id p w).1.apply p =
        p.setRelated key (.string (p.render c.value)) := by
    rw [hn]
    rfl
  have hfound (p : Payload) (later : Fields) (hlater : key ∉ later.map Prod.fst) {other : String}
      (hother : Payload.keysOf other = ["related_data", key]) :
      ((p.setRelated key (.string (p.render c.value))).setAll later).lookup other =
        some (.string (p.render c.value)) :=
    Payload.lookup_of_keysOf hother
      ((Fields.get?_insertAll_of_not_mem hlater).trans (Fields.get?_insert_self _ _ _)) rfl
  have hself (hkey : Payload.Nameable key) : Payload.keysOf path = ["related_data", key] :=
    Payload.keysOf_relatedPath_eq_iff.2 ⟨hkey, rfl⟩
  refine ⟨⟨fun hkey e x p w => ?_, fun hall => ?_⟩,
    fun e x p w => ⟨fun hkey later hlater => ?_, fun hkey hp => ?_⟩⟩
  · rw [hwritten]
    exact hfound p [] List.not_mem_nil (hself hkey)
  · by_contra hkey
    have hnone := Payload.lookup_setRelated_of_not_nameable hkey (p := default) rfl
    have hsome := hall .bare default default default
    rw [hwritten, hnone] at hsome
    cases hsome
  · rw [hwritten]
    refine ⟨hfound p later hlater (hself hkey), fun hole hhole => ?_, fun cond hcond => ?_⟩
    · rw [Payload.fill, hfound p later hlater (Payload.keysOf_of_trim hkey hhole)]
      rfl
    · rw [NodeTask.branch, hfound p later hlater (Payload.keysOf_of_trim hkey hcond)]
  · rw [hwritten]
    exact Payload.lookup_setRelated_of_not_nameable hkey hp _

/-! ## A supplier -/

namespace Example

/-- A node that notes the name of a supplier, and what it leaves of the payload about milk. -/
def supplierNote (field : String) : GraphNode := ⟨"update-1", .updateData ⟨field, "Ann"⟩⟩

@[inherit_doc supplierNote]
def supplied (field : String) : Payload :=
  ((supplierNote field).config.task.step .bare default "update-1" milkPayload .initial).1.apply
    milkPayload

end Example

/-- Under a plain key, the supplier is found again, also behind a note on something else and in a
hole with blanks in it. -/
theorem GraphNode.recalled_supplier :
    (Example.supplierNote "related_data.supplier").config =
      .updateData ⟨"related_data.supplier", "Ann"⟩ ∧
    Payload.Nameable "supplier" ∧
    let later := (Example.supplied "related_data.supplier").setAll [("note", .string "late")]
    later.lookup "related_data.supplier" = some (.string "Ann") ∧
    later.fill (.hole " related_data.supplier ".toList) = "Ann" := by
  have hkey : NodeTask.targetKey ⟨"related_data.supplier", "Ann"⟩ = "supplier" := by
    decide +kernel
  have hname : Payload.Nameable "supplier" := by decide
  have hvalue : Example.milkPayload.render "Ann" = "Ann" := by decide +kernel
  have h := GraphNode.recalled (n := Example.supplierNote "related_data.supplier") rfl
  simp only [hkey] at h
  obtain ⟨hlookup, hfill, -⟩ := (h.2 .bare default Example.milkPayload .initial).1 hname
    [("note", .string "late")] (by decide)
  rw [hvalue] at hlookup hfill
  exact ⟨rfl, hname, hlookup, hfill _ (by decide +kernel)⟩

/-- A field that is accepted and under which the name of the supplier is noted, but nobody finds it
there. -/
def Example.Lost (field : String) : Prop :=
  ∃ c, Registry.builtin.configure "update-1" .updateData
      [("targetField", .string field), ("value", .string "Ann")] = .ok (.updateData c) ∧
    (Example.supplierNote field).config = .updateData c ∧
    (Example.supplied field).relatedData.map Prod.fst = [NodeTask.targetKey c] ∧
    field = Payload.relatedPath (NodeTask.targetKey c) ∧
    (Example.supplied field).lookup field = none ∧
    (Example.supplied field).render ("\x7b\x7b" ++ field ++ "\x7d\x7d") = ""

/-- In the one field the key has a point, in the other a blank at its end. -/
theorem GraphNode.not_recalled_supplier :
    Example.Lost "related_data.supplier.name" ∧ Example.Lost "related_data.supplier " := by
  constructor
  · exact ⟨_, rfl, rfl, rfl, by decide +kernel, Option.isNone_iff_eq_none.1 (by decide +kernel),
      by decide +kernel⟩
  · exact ⟨_, rfl, rfl, rfl, by decide +kernel, Option.isNone_iff_eq_none.1 (by decide +kernel),
      by decide +kernel⟩

end KitchenFlow
