import KitchenFlow.Proofs.Store.Layout
import Mathlib.Data.List.Perm.Basic

/-!
# A store in files and a store in memory

Once the folders of a store have been made and nothing else is there, plain puts whose names are
short enough all succeed, and what is read afterwards is what a store in memory has that has served
the same puts. Where a name leads somewhere else this need not be so: what is put for one
organization may then take the place of something else.

    FileStore.Holds.activeFlows_eq   the flows that are read
    FileStore.Agrees                 what is read as from a store in memory
    FileStore.Fresh                  where a new store can be made
    FileStore.agrees_run             a new store, after any plain puts
-/

namespace KitchenFlow

open FilePath (IsName IsStem join nameLimit)

namespace FileStore

variable {s : FileStore} {b p : FilePlace} {t : FileTree} {m : MemoryStore} {org : String}
  {f : Flow} {c : Credential}

/-- Makes the folders of a store and serves puts. -/
def run (s : FileStore) (t : FileTree) (puts : List StorePut) : Put :=
  (s.create t).andThen fun t => s.serveAll t puts

/-! ## Flows that are read -/

theorem isFlowName_json {stem : String} (hstem : stem ≠ "") :
    isFlowName (stem ++ ".json") = true := by
  have hjson : stem ++ ".json" = stem ++ "." ++ "json" := by
    rw [String.append_assoc]
    rfl
  rw [isFlowName, hjson, FilePath.cutExtension_append hstem (by decide)]
  rfl

/-- The name of a file that holds a flow has something before its ending. -/
theorem isFlowName_iff {name : String} :
    isFlowName name = true ↔ ∃ stem, stem ≠ "" ∧ name = stem ++ ".json" := by
  constructor
  · intro h
    rw [isFlowName, FilePath.cutExtension] at h
    split at h
    · next stem extension hcut =>
      split_ifs at h with hstem
      · cases h
      · refine ⟨stem, by simpa using hstem, ?_⟩
        obtain rfl : extension = "json" := by simpa using h
        rw [← Text.append_of_cutLast? "." rfl hcut, String.append_assoc]
        rfl
    · cases h
  · rintro ⟨stem, hstem, rfl⟩
    exact isFlowName_json hstem

/-- A flow is read from a file in a folder. -/
def HasFlow (t : FileTree) (folder name : String) (f : Flow) : Prop :=
  ∃ bytes, t.contents (join folder name) = .ok bytes ∧ Decoder.ofBytes Flow.decoder bytes = .ok f

theorem readFlows_eq {folder : String} {names : List String} {fs : List Flow}
    (h : List.Forall₂ (HasFlow t folder) names fs) : readFlows t folder names = .ok fs := by
  induction h with
  | nil => rfl
  | cons hf _ ih =>
    obtain ⟨bytes, hread, hflow⟩ := hf
    rw [readFlows, hread, ih]
    dsimp only [Except.mapError, bind, Except.bind]
    rw [hflow]

/-- Sorted flows are in the order of their ids. -/
theorem pairwise_mergeSort_id (fs : List Flow) :
    (fs.mergeSort fun f g => f.id ≤ g.id).Pairwise fun f g => f.id ≤ g.id := by
  have htrans (f g k : Flow) (hfg : decide (f.id ≤ g.id) = true)
      (hgk : decide (g.id ≤ k.id) = true) : decide (f.id ≤ k.id) = true :=
    decide_eq_true (String.le_trans (of_decide_eq_true hfg) (of_decide_eq_true hgk))
  have htotal (f g : Flow) : (decide (f.id ≤ g.id) || decide (g.id ≤ f.id)) = true := by
    rw [Bool.or_eq_true, decide_eq_true_iff, decide_eq_true_iff]
    exact String.le_total _ _
  exact (List.pairwise_mergeSort htrans htotal fs).imp of_decide_eq_true

/-- In what order flows of distinct ids come makes no difference once they are sorted. -/
theorem mergeSort_eq_of_perm {fs gs : List Flow} (hperm : fs.Perm gs)
    (hid : ∀ f ∈ gs, ∀ g ∈ gs, f.id = g.id → f = g) :
    fs.mergeSort (fun f g => f.id ≤ g.id) = gs.mergeSort fun f g => f.id ≤ g.id := by
  refine List.Perm.eq_of_pairwise (fun f g hf hg hfg hgf => ?_)
    (pairwise_mergeSort_id fs) (pairwise_mergeSort_id gs)
    ((List.mergeSort_perm fs _).trans (hperm.trans (List.mergeSort_perm gs _).symm))
  have hf := hperm.mem_iff.1 (List.mem_mergeSort.1 hf)
  exact hid f hf g (List.mem_mergeSort.1 hg) (String.le_antisymm hfg hgf)

/-- The names in the folder of an organization are those of its flows. -/
theorem Holds.namesAt_perm (h : s.Holds b t m.Stands) (hm : m.Proper) (org : String) :
    (t.namesAt (b ++ ["flows", org])).Perm ((m.flowsOf org).map fun f => f.id ++ ".json") := by
  have hnodup : ((m.flowsOf org).map fun f => f.id ++ ".json").Nodup := by
    have hmap := (hm.nodup_flowsOf org).map fun a c heq => (String.append_left_inj ".json").1 heq
    rwa [List.map_map] at hmap
  rw [List.perm_ext_iff_of_nodup (FileTree.nodup_namesAt h.listed (List.prefix_append _ _)) hnodup]
  intro name
  rw [FileTree.mem_namesAt, List.append_assoc, List.mem_map]
  constructor
  · intro hat
    obtain ⟨e, he⟩ := Option.ne_none_iff_exists'.1 hat
    obtain ⟨f, hf, hname, -⟩ := MemoryStore.stands_flow.1 ((h.at_iff _ _ (by simp)).1 he)
    exact ⟨f, MemoryStore.mem_flowsOf.2 hf, hname⟩
  · rintro ⟨f, hf, rfl⟩
    have hstands := MemoryStore.Stands.flow (MemoryStore.mem_flowsOf.1 hf)
    exact Option.ne_none_iff_exists'.2 ⟨_, (h.at_iff _ _ (by simp)).2 hstands⟩

/-- Each flow of an organization is read from its file. -/
theorem Holds.hasFlow (h : s.Holds b t m.Stands) (hm : m.Proper) (horg : IsName org)
    (hlength : org.utf8ByteSize ≤ nameLimit) (hf : f ∈ m.flowsOf org) :
    HasFlow t (s.flowFolder org) (f.id ++ ".json") f := by
  have hmem := MemoryStore.mem_flowsOf.1 hf
  obtain ⟨-, hid, hsound, hlegible⟩ := hm.flows _ hmem
  have hname : IsName (f.id ++ ".json") := hid.append (by decide) (by decide) (by decide)
  have hplace : b ++ ["flows"] ++ [org] = b ++ ["flows", org] := List.append_assoc ..
  have hfolder := h.hasFolder_flows.opens.hasFolder_join horg hlength (by
    rw [hplace]
    exact (h.at_iff _ _ (by simp)).2 (.org hmem))
  have hfile : t.at? (b ++ ["flows"] ++ [org] ++ [f.id ++ ".json"]) =
      some (.text f.written.pretty) := by
    rw [hplace, List.append_assoc]
    exact (h.at_iff _ _ (by simp)).2 (.flow hmem)
  have hshort := h.short _ _ (.flow hmem) (f.id ++ ".json") (by simp)
  refine ⟨f.written.pretty.toUTF8.toList, ?_, ?_⟩
  · rw [flowFolder, hfolder.opens.contents_join hname, if_neg (Nat.not_lt.2 hshort), hfile]
  · rw [Decoder.ofBytes_toUTF8, Flow.ofText_written hsound hlegible]

/-- What is in the folder of an organization, if it has one. -/
theorem Holds.names_flowFolder (h : s.Holds b t m.Stands) (horg : IsName org) :
    t.names (s.flowFolder org) =
      if nameLimit < org.utf8ByteSize then .error .nameTooLong
      else if m.flowsOf org = [] then .error .absent
      else .ok (t.namesAt (b ++ ["flows", org])) := by
  have hplace : b ++ ["flows"] ++ [org] = b ++ ["flows", org] := List.append_assoc ..
  rw [flowFolder, h.hasFolder_flows.opens.names_join horg, hplace]
  by_cases hnone : m.flowsOf org = []
  · have hat : t.at? (b ++ ["flows", org]) = none := by
      refine h.at_eq_none (List.cons_ne_nil _ _) fun e he => ?_
      obtain ⟨⟨f, hf⟩, -⟩ := MemoryStore.stands_folder.1 he
      rw [← MemoryStore.mem_flowsOf, hnone] at hf
      exact List.not_mem_nil hf
    rw [hat, if_pos hnone]
  · obtain ⟨f, hf⟩ := List.exists_mem_of_ne_nil _ hnone
    have hat := (h.at_iff _ _ (List.cons_ne_nil _ _)).2 (.org (MemoryStore.mem_flowsOf.1 hf))
    rw [hat, if_neg hnone]

/-- The active flows of an organization are those of the store in memory, in the order of their
ids. The name of an organization may be too long for a folder, though. -/
theorem Holds.activeFlows_eq (h : s.Holds b t m.Stands) (hm : m.Proper) (horg : IsName org) :
    s.activeFlows t org =
      if nameLimit < org.utf8ByteSize then
        .error (.during "failed to read flows directory" FileError.nameTooLong.message)
      else .ok ((m.activeFlows org).mergeSort fun f g => f.id ≤ g.id) := by
  rw [activeFlows, h.names_flowFolder horg, MemoryStore.activeFlows_eq]
  split_ifs with hlong hnone
  · rfl
  · rw [hnone, List.filter_nil, List.mergeSort_nil]
  · have hflows : List.Forall₂ (HasFlow t (s.flowFolder org))
        ((m.flowsOf org).map fun f => f.id ++ ".json") (m.flowsOf org) :=
      List.forall₂_map_left_iff.2 (List.forall₂_same.2 fun f hf =>
        h.hasFlow hm horg (Nat.le_of_not_lt hlong) hf)
    obtain ⟨fs, hfiles, hperm⟩ := List.perm_comp_forall₂ (h.namesAt_perm hm org) hflows
    have hall : (t.namesAt (b ++ ["flows", org])).filter isFlowName =
        t.namesAt (b ++ ["flows", org]) := by
      refine List.filter_eq_self.2 fun name hname => ?_
      obtain ⟨f, hf, rfl⟩ := List.mem_map.1 ((h.namesAt_perm hm org).mem_iff.1 hname)
      exact isFlowName_json (hm.flows _ (MemoryStore.mem_flowsOf.1 hf)).2.1.ne_empty
    dsimp only
    rw [hall, readFlows_eq hfiles]
    refine congrArg Except.ok (mergeSort_eq_of_perm (hperm.filter _) fun f hf g hg => ?_)
    exact hm.eq_of_id (List.mem_filter.1 hf).1 (List.mem_filter.1 hg).1

/-! ## Items and credentials that are read -/

/-- The items of an organization near their expiry are those of the store in memory, unless the name
of the organization is too long for a file. -/
theorem Holds.itemsNearExpiry_eq (h : s.Holds b t m.Stands) (hm : m.Proper)
    (hhorizon : s.horizon = defaultHorizon) (horg : IsStem org) :
    s.itemsNearExpiry t org =
      if nameLimit < (org ++ ".json").utf8ByteSize then
        .error (.during ("failed to read " ++ s.inventoryPath org) FileError.nameTooLong.message)
      else .ok (m.itemsNearExpiry org) := by
  have hname : IsName (org ++ ".json") := horg.append (by decide) (by decide) (by decide)
  have hread : t.contents (s.inventoryPath org) = _ :=
    h.hasFolder_inventory.opens.contents_join hname
  have hplace : b ++ ["inventory"] ++ [org ++ ".json"] = b ++ ["inventory", org ++ ".json"] :=
    List.append_assoc ..
  rw [hplace] at hread
  rw [itemsNearExpiry, hread, MemoryStore.itemsNearExpiry]
  split_ifs with hlong
  · rfl
  · cases hheld : m.inventories.lookup org with
    | none =>
      have hat : t.at? (b ++ ["inventory", org ++ ".json"]) = none := by
        refine h.at_eq_none (List.cons_ne_nil _ _) fun e he => ?_
        obtain ⟨items, hitems, -⟩ := MemoryStore.stands_items.1 he
        simpa using List.lookup_eq_none_iff.1 hheld _ hitems
      rw [hat]
      rfl
    | some items =>
      obtain ⟨l, l', hl, -⟩ := List.lookup_eq_some_iff.1 hheld
      have hitems : (org, items) ∈ m.inventories := by
        rw [hl]
        exact List.mem_append_right _ List.mem_cons_self
      rw [(h.at_iff _ _ (List.cons_ne_nil _ _)).2 (.items hitems)]
      show ((Decoder.ofBytes _ (inventoryText items).toUTF8.toList).mapError _ >>= _) = _
      rw [Decoder.ofBytes_toUTF8, inventoryText,
        InventoryItem.ofText_list (hm.inventories _ hitems).2, hhorizon]
      rfl

theorem find?_id_eq_some_iff {cs : List Credential} (hnodup : (cs.map (·.id)).Nodup) {id : String} :
    cs.find? (·.id == id) = some c ↔ c ∈ cs ∧ c.id = id := by
  constructor
  · intro h
    have hid := List.find?_some h
    exact ⟨List.mem_of_find?_eq_some h, beq_iff_eq.1 hid⟩
  · rintro ⟨hc, rfl⟩
    have hsome : (cs.find? (·.id == c.id)).isSome = true :=
      List.find?_isSome.2 ⟨c, hc, beq_self_eq_true _⟩
    obtain ⟨d, hd⟩ := Option.isSome_iff_exists.1 hsome
    have hid := List.find?_some hd
    rw [hd, Option.some_inj]
    exact List.inj_on_of_nodup_map hnodup (List.mem_of_find?_eq_some hd) hc (beq_iff_eq.1 hid)

/-- The same credential is found. -/
theorem Holds.credential?_eq (h : s.Holds b t m.Stands) (hm : m.Proper) (id : String) :
    s.credential? t id = .ok (m.credential? id) := by
  have hreverse : (m.credentials.reverse.map (·.id)).Nodup := by
    rw [List.map_reverse, List.nodup_reverse]
    exact hm.nodup_credentials
  rw [credential?, h.credentials_eq hm, MemoryStore.credential?]
  refine congrArg Except.ok (Option.ext fun c => ?_)
  rw [find?_id_eq_some_iff hreverse, find?_id_eq_some_iff hm.nodup_credentials, List.mem_reverse]

/-- What is read below the folder of a store is what a store in memory has. -/
structure Agrees (s : FileStore) (t : FileTree) (m : MemoryStore) : Prop where
  flows : ∀ org, IsName org → s.activeFlows t org =
    if nameLimit < org.utf8ByteSize then
      .error (.during "failed to read flows directory" FileError.nameTooLong.message)
    else .ok ((m.activeFlows org).mergeSort fun f g => f.id ≤ g.id)
  items : ∀ org, IsStem org → s.itemsNearExpiry t org =
    if nameLimit < (org ++ ".json").utf8ByteSize then
      .error (.during ("failed to read " ++ s.inventoryPath org) FileError.nameTooLong.message)
    else .ok (m.itemsNearExpiry org)
  credential : ∀ id, s.credential? t id = .ok (m.credential? id)

theorem Holds.agrees (h : s.Holds b t m.Stands) (hm : m.Proper)
    (hhorizon : s.horizon = defaultHorizon) : s.Agrees t m :=
  ⟨fun _ horg => h.activeFlows_eq hm horg, fun _ horg => h.itemsNearExpiry_eq hm hhorizon horg,
    h.credential?_eq hm⟩

/-! ## A new store -/

/-- A new store can be made here: its folders are made, and nothing else is then below its
folder. -/
structure Fresh (s : FileStore) (b : FilePlace) (t : FileTree) : Prop where
  made : (s.create t).result = .ok ()
  holds : s.Holds b (s.create t).tree fun p e => e = .folder ∧ (p = ["flows"] ∨ p = ["inventory"])

/-- In an empty folder a store is made. -/
theorem fresh_of_empty (h : t.HasFolder s.base b) (hempty : ∀ p ∈ t.placesFrom b, p = b)
    (hlisted : (t.placesFrom b).Nodup) : s.Fresh b t := by
  have hnone : s.Holds b t fun _ _ => False := by
    refine ⟨h, fun p e hp => ⟨fun hat => hp ?_, False.elim⟩, fun _ _ => False.elim, hlisted⟩
    have hmem := FileTree.mem_placesFrom (by simp [hp]) hat (List.prefix_append b p)
    exact List.append_right_eq_self.1 (hempty _ hmem)
  have hbase : t.HasFolder s.base (b ++ []) := by
    rw [List.append_nil]
    exact h
  obtain ⟨u, hflows, -, hu⟩ :=
    hnone.put_folder hbase isName_flows (by simp) (by decide) (fun _ => False.elim) "flows"
  have hbase' : u.HasFolder s.base (b ++ []) := by
    rw [List.append_nil]
    exact hu.base
  obtain ⟨v, hinventory, -, hv⟩ :=
    hu.put_folder hbase' isName_inventory (by simp) (by decide) (fun bytes he => by simp at he)
      "inventory"
  have hcreate : s.create t = ⟨.ok (), v⟩ := by
    rw [create, hflows, Put.ok_andThen, hinventory]
  refine ⟨by rw [hcreate], ?_⟩
  rw [hcreate]
  refine hv.congr fun p e => ?_
  rw [List.nil_append, List.nil_append]
  split_ifs with hp hp' <;> simp [*]

/-- Where there is no folder yet, one is made first. -/
theorem fresh_of_absent {folder name : String} (h : t.HasFolder folder p) (hname : IsName name)
    (hlength : name.utf8ByteSize ≤ nameLimit) (hempty : t.placesFrom (p ++ [name]) = [])
    (hbase : s.base = join folder name) : s.Fresh (p ++ [name]) t := by
  have hnone (q : FilePlace) : t.at? (p ++ [name] ++ q) = none := by
    refine Option.eq_none_iff_forall_ne_some.2 fun e he => ?_
    have hmem := FileTree.mem_placesFrom (by simp) he (List.prefix_append _ q)
    rw [hempty] at hmem
    exact List.not_mem_nil hmem
  have hat : t.at? (p ++ [name]) = none := by simpa using hnone []
  have hsets : t.Sets (t.put (p ++ [name]) .folder) _ _ := FileTree.sets_put (by simp) .folder
  have hmade := (h.mono (hsets.keeps fun _ => rfl)).opens.hasFolder_join hname hlength hsets.at_self
  have hmake := h.opens.makeFolders_within hname hlength hat isName_flows (by decide) (hnone _)
  have hsame : s.create t = s.create (t.put (p ++ [name]) .folder) := by
    rw [create, create, Put.folder, hbase, hmake]
    rfl
  have hplaces : (t.put (p ++ [name]) .folder).placesFrom (p ++ [name]) = [p ++ [name]] := by
    have hothers := FileTree.placesFrom_erase_sublist t (p ++ [name]) (p ++ [name])
    rw [hempty, List.sublist_nil] at hothers
    rw [FileTree.placesFrom_put, if_pos (List.isPrefixOf_iff_prefix.2 (List.prefix_refl _)),
      hothers]
  rw [← hbase] at hmade
  have hfresh := fresh_of_empty hmade (by simp [hplaces]) (by simp [hplaces])
  exact ⟨hsame ▸ hfresh.made, hsame ▸ hfresh.holds⟩

/-- Plain puts into a new store all succeed exactly if their names are short enough. After them, the
store answers like a store in memory that has served the same puts, and a further plain put changes
nothing for an organization that it is not for. -/
theorem agrees_run {puts : List StorePut} (hhorizon : s.horizon = defaultHorizon)
    (hfresh : s.Fresh b t) (hputs : ∀ put ∈ puts, put.Plain) :
    ((s.run t puts).result = .ok () ↔ ∀ put ∈ puts, put.Short) ∧
    ((s.run t puts).result = .ok () →
      s.Agrees (s.run t puts).tree (puts.foldl MemoryStore.serve .empty) ∧
        ∀ put : StorePut, put.Plain → (s.serve (s.run t puts).tree put).result = .ok () →
          ∀ org, put.org? ≠ some org →
            (IsName org → s.activeFlows (s.serve (s.run t puts).tree put).tree org =
              s.activeFlows (s.run t puts).tree org) ∧
            (IsStem org → s.itemsNearExpiry (s.serve (s.run t puts).tree put).tree org =
              s.itemsNearExpiry (s.run t puts).tree org)) := by
  have hempty := hfresh.holds.congr fun _ _ => MemoryStore.stands_empty
  have hserved := hempty.serveAll MemoryStore.proper_empty hputs
  have hproper := MemoryStore.proper_empty.foldl hputs
  have hrun : s.run t puts = s.serveAll (s.create t).tree puts := Put.andThen_of_ok hfresh.made _
  rw [hrun]
  refine ⟨hserved.ok_iff, fun hok => ?_⟩
  have hholds := hserved.holds hok
  have hagrees := hholds.agrees hproper hhorizon
  refine ⟨hagrees, fun put hput hok org hother => ?_⟩
  have hafter := ((hholds.serve hproper hput).holds hok).agrees (hproper.serve hput) hhorizon
  obtain ⟨hflows, hitems⟩ :=
    MemoryStore.reads_serve_of_ne hother (puts.foldl MemoryStore.serve .empty)
  refine ⟨fun horg => ?_, fun horg => ?_⟩
  · rw [hafter.flows org horg, hagrees.flows org horg, hflows]
  · rw [hafter.items org horg, hagrees.items org horg, hitems]

/-- A store in the folder `/pantry`. -/
def pantry : FileStore := { base := "/pantry" }

theorem fresh_pantry : pantry.Fresh ["pantry"] .empty := by
  have hroot : FileTree.empty.HasFolder "/" [] := ⟨by decide, by decide, by decide +kernel, rfl⟩
  have hname : IsName "pantry" := ⟨⟨by decide, by decide, by decide⟩, by decide, by decide⟩
  exact fresh_of_absent hroot hname (by decide) rfl (by decide +kernel)

/-- A credential. -/
def mailKey : Credential := ⟨"mail", .apiKey, "sealed", [("region", .string "north")]⟩

/-- A put of each kind. -/
def pantryPuts : List StorePut :=
  [.flow "home" { Flow.placed Flow.oneAndHalf with isActive := true },
    .inventory "home" [⟨"item-1", "Milk", none, none, none, some 2, some Flow.oneAndHalf⟩],
    .credential mailKey]

theorem plain_pantryPuts : ∀ put ∈ pantryPuts, put.Plain := by
  have hhome : IsName "home" := ⟨⟨by decide, by decide, by decide⟩, by decide, by decide⟩
  have hsound := Flow.sound_of_decoder (Flow.ofJson_placedValue Flow.oneAndHalf)
  simp only [pantryPuts, List.forall_mem_cons, List.not_mem_nil, false_implies, implies_true,
    and_true]
  refine ⟨⟨hhome, ⟨by decide, by decide, by decide⟩, ⟨hsound.nodes, hsound.lastPublished⟩, ?_⟩,
    ⟨hhome.toIsStem, ?_⟩, ⟨?_, rfl⟩⟩
  · exact List.forall_mem_singleton.2 ⟨⟨by decide +kernel, by decide +kernel⟩, rfl⟩
  · refine List.forall_mem_singleton.2 ⟨fun n hn => ?_, fun x hx => ?_⟩
    · rw [← Option.mem_some_iff.1 hn]
      decide +kernel
    · rw [← Option.mem_some_iff.1 hx]
      decide +kernel
  · exact ⟨List.pairwise_singleton _ _, trivial, trivial⟩

theorem agrees_run_pantry :
    pantry.Fresh ["pantry"] .empty ∧ (∀ put ∈ pantryPuts, put.Plain) ∧
      (pantry.run .empty pantryPuts).result = .ok () ∧
        pantry.Agrees (pantry.run .empty pantryPuts).tree
          (pantryPuts.foldl MemoryStore.serve .empty) := by
  obtain ⟨hok_iff, hagrees⟩ := agrees_run rfl fresh_pantry plain_pantryPuts
  have hok := hok_iff.2 (by decide +kernel)
  exact ⟨fresh_pantry, plain_pantryPuts, hok, (hagrees hok).1⟩

/-- The inventory of an organization whose name leads to the file of the credentials takes their
place. -/
theorem not_agrees_run_astray :
    ¬ ∀ (s : FileStore) (t : FileTree) (b : FilePlace) (puts : List StorePut),
      s.horizon = defaultHorizon → s.Fresh b t → (s.run t puts).result = .ok () →
        ∀ id, s.credential? (s.run t puts).tree id =
          .ok ((puts.foldl MemoryStore.serve .empty).credential? id) := by
  intro h
  have hok : (pantry.run .empty [.credential mailKey, .inventory "../credentials" []]).result =
      .ok () := by decide +kernel
  have hlost : (pantry.credential? (pantry.run .empty
      [.credential mailKey, .inventory "../credentials" []]).tree "mail").toOption.map
        Option.isSome = some false := by decide +kernel
  rw [h pantry .empty _ _ rfl fresh_pantry hok "mail"] at hlost
  exact absurd hlost (by decide +kernel)

end FileStore
end KitchenFlow
