import KitchenFlow.Proofs.Store.Files
import KitchenFlow.Proofs.Text.Bytes

/-!
# The flows in a folder

What is in the folder of an organization need not all have been put there by the store: there may be
folders and files of any names, and files of any bytes. The flows are read from the files whose
names end in `.json`. Other files and folders are not looked at, and a file that cannot be read as a
flow is passed over. But a folder whose name ends in `.json` is taken for the file of a flow, and as
a folder cannot be read like a file, no flow of the organization is listed as long as it is there.

A folder is taken here as the list of its items, in any order, with names and files in bytes. How
bytes are read as a flow is left open for the most part. As the store reads them, bytes that spell a
text are read as the text is.

    FolderItem                         what may be in a folder
    FileStore.listItems                the active flows in a folder with any items
    FileStore.listItems_eq             what stands in their way
    FileStore.activeFlows_eq_items     the flows of an organization are those in its folder
-/

namespace KitchenFlow

open FilePath (IsName nameLimit)

/-- An item of a folder: its name and, if it is a file, the bytes in it. -/
structure FolderItem where
  name : List UInt8
  bytes? : Option (List UInt8)
deriving DecidableEq

namespace FolderItem

/-- How the names of the files of flows end. -/
def ending : List UInt8 := ".json".toUTF8.toList

/-- The item has the name of the file of a flow. A name that begins with its only dot has no
extension. -/
def NamesFlow (i : FolderItem) : Prop := ∃ stem, stem ≠ [] ∧ i.name = stem ++ ending

theorem namesFlow_iff {i : FolderItem} : i.NamesFlow ↔ ending <:+ i.name ∧ i.name ≠ ending := by
  constructor
  · rintro ⟨stem, hstem, hname⟩
    exact ⟨⟨stem, hname.symm⟩, fun heq => hstem (List.append_left_eq_self.1 (hname ▸ heq))⟩
  · rintro ⟨⟨stem, hname⟩, hne⟩
    refine ⟨stem, fun hstem => hne ?_, hname.symm⟩
    rw [← hname, hstem, List.nil_append]

instance (i : FolderItem) : Decidable i.NamesFlow := decidable_of_iff _ namesFlow_iff.symm

/-- The item is a folder with the name of the file of a flow. -/
def Blocks (i : FolderItem) : Prop := i.NamesFlow ∧ i.bytes? = none

instance (i : FolderItem) : Decidable i.Blocks := inferInstanceAs (Decidable (_ ∧ _))

/-- The flow that the item holds. -/
def flow? (parse : List UInt8 → Option Flow) (i : FolderItem) : Option Flow :=
  if i.NamesFlow then i.bytes?.bind parse else none

end FolderItem

namespace FileTree

/-- What stands under a name in the folder at a place, as an item. -/
def itemAt (t : FileTree) (b : FilePlace) (name : String) : FolderItem where
  name := name.toUTF8.toList
  bytes? :=
    match t.at? (b ++ [name]) with
    | some (.file bytes) => some bytes
    | _ => none

/-- The items of the folder at a place. -/
def itemsAt (t : FileTree) (b : FilePlace) : List FolderItem := (t.namesAt b).map (t.itemAt b)

end FileTree

namespace FileStore

open FolderItem (ending)

variable {parse : List UInt8 → Option Flow} {items l l' : List FolderItem} {i : FolderItem}

/-! ## Items of a folder -/

/-- The flow that the store reads from the bytes of a file. -/
def flowOf (bytes : List UInt8) : Option Flow := (Decoder.ofBytes Flow.decoder bytes).toOption

/-- Bytes that spell a text are read as the text is. -/
theorem flowOf_toUTF8 (text : String) :
    flowOf text.toUTF8.toList = (Decoder.ofText Flow.decoder text).toOption := by
  rw [flowOf, Decoder.ofBytes_toUTF8]

/-- All flows that can be read from the items of a folder. -/
def readItems (parse : List UInt8 → Option Flow) : List FolderItem → Except StoreError (List Flow)
  | [] => .ok []
  | i :: rest =>
    if i.NamesFlow then
      match i.bytes? with
      | none => .error (.during "failed to read flow file" FileError.isFolder.message)
      | some bytes => (readItems parse rest).map fun flows => (parse bytes).toList ++ flows
    else readItems parse rest

/-- The active flows in a folder, in the order of their ids. -/
def listItems (parse : List UInt8 → Option Flow) (items : List FolderItem) :
    Except StoreError (List Flow) :=
  (readItems parse items).map fun flows =>
    (flows.filter (·.isActive)).mergeSort fun f g => f.id ≤ g.id

/-- Flows are read from all items that hold one, unless there is a folder in the way. -/
theorem readItems_eq (parse : List UInt8 → Option Flow) (items : List FolderItem) :
    readItems parse items =
      if ∃ i ∈ items, i.Blocks then
        .error (.during "failed to read flow file" FileError.isFolder.message)
      else .ok (items.filterMap (·.flow? parse)) := by
  induction items with
  | nil => rfl
  | cons i rest ih =>
    have hexists : (∃ j ∈ i :: rest, j.Blocks) ↔ i.Blocks ∨ ∃ j ∈ rest, j.Blocks := by
      simp only [List.mem_cons, exists_eq_or_imp]
    rw [readItems, ih, List.filterMap_cons, FolderItem.flow?]
    simp only [hexists]
    by_cases hnames : i.NamesFlow
    · rw [if_pos hnames, if_pos hnames]
      cases hbytes : i.bytes? with
      | none => rw [if_pos (Or.inl ⟨hnames, hbytes⟩)]
      | some bytes =>
        have hfile : ¬i.Blocks := fun h => by simp [h.2] at hbytes
        simp only [hfile, false_or, Option.bind_some]
        split_ifs
        · rfl
        · cases parse bytes <;> rfl
    · rw [if_neg hnames, if_neg hnames]
      have hother : ¬i.Blocks := fun h => hnames h.1
      simp only [hother, false_or]

theorem listItems_eq (parse : List UInt8 → Option Flow) (items : List FolderItem) :
    listItems parse items =
      if ∃ i ∈ items, i.Blocks then
        .error (.during "failed to read flow file" FileError.isFolder.message)
      else
        .ok (((items.filterMap (·.flow? parse)).filter (·.isActive)).mergeSort
          fun f g => f.id ≤ g.id) := by
  rw [listItems, readItems_eq]
  split_ifs <;> rfl

/-- What holds no active flow and is not in the way makes no difference, wherever it comes. -/
theorem listItems_insert (hblocks : ¬i.Blocks)
    (hflow : ∀ f, i.flow? parse = some f → f.isActive = false) :
    listItems parse (l ++ i :: l') = listItems parse (l ++ l') := by
  have hexists : (∃ j ∈ l ++ i :: l', j.Blocks) ↔ ∃ j ∈ l ++ l', j.Blocks := by
    simp only [List.mem_append, List.mem_cons, or_and_right, exists_or, exists_eq_left, hblocks,
      false_or]
  have hsame : ((l ++ i :: l').filterMap (·.flow? parse)).filter (·.isActive) =
      ((l ++ l').filterMap (·.flow? parse)).filter (·.isActive) := by
    rw [List.filterMap_append, List.filterMap_append, List.filter_append, List.filter_append,
      List.filterMap_cons]
    cases hi : i.flow? parse with
    | none => rfl
    | some f => rw [List.filter_cons_of_neg (by simp [hflow f hi])]
  rw [listItems_eq, listItems_eq, hsame]
  simp only [hexists]

/-! ## The folder of an organization -/

variable {s : FileStore} {t : FileTree} {b : FilePlace} {folder org name : String}

/-- Going by its bytes, a name is that of the file of a flow just when it is one as a text. -/
theorem namesFlow_itemAt (t : FileTree) (b : FilePlace) (name : String) :
    (t.itemAt b name).NamesFlow ↔ isFlowName name = true := by
  rw [isFlowName_iff]
  constructor
  · rintro ⟨bytes, hbytes, hname⟩
    obtain ⟨stem, rfl, heq⟩ := Text.exists_of_toUTF8_eq_append (by decide +kernel) hname
    have hending : String.ofList (ending.map fun b => Char.ofNat b.toNat) = ".json" := by
      decide +kernel
    refine ⟨stem, ?_, hending ▸ heq⟩
    rintro rfl
    exact hbytes (by decide +kernel)
  · rintro ⟨stem, hstem, rfl⟩
    refine ⟨stem.toUTF8.toList, fun hempty => hstem ?_, ?_⟩
    · have hback := Text.fromUTF8?_toUTF8 stem
      rw [hempty] at hback
      exact (Option.some.inj hback).symm
    · show (stem ++ ".json").toUTF8.toList = _
      rw [Text.toList_toUTF8, String.toList_append, List.flatMap_append, ← Text.toList_toUTF8,
        ← Text.toList_toUTF8]
      rfl

/-- The flow in a file that has the name of one. -/
theorem flow?_of_file (parse : List UInt8 → Option Flow) (hname : isFlowName name = true)
    {bytes : List UInt8} (hat : t.at? (b ++ [name]) = some (.file bytes)) :
    (t.itemAt b name).flow? parse = parse bytes := by
  rw [FolderItem.flow?, if_pos ((namesFlow_itemAt t b name).2 hname), FileTree.itemAt, hat]
  rfl

theorem flow?_of_other (parse : List UInt8 → Option Flow) (t : FileTree) (b : FilePlace)
    (hname : isFlowName name = false) : (t.itemAt b name).flow? parse = none := by
  have hother : ¬(t.itemAt b name).NamesFlow := by
    rw [namesFlow_itemAt, hname]
    exact Bool.false_ne_true
  rw [FolderItem.flow?, if_neg hother]

/-- What is read from files in a folder is what is read from the items with their names. -/
theorem readFlows_eq_readItems (hfolder : t.HasFolder folder b) {names : List String}
    (hnames : ∀ name ∈ names, IsName name ∧ name.utf8ByteSize ≤ nameLimit)
    (hthere : ∀ name ∈ names, t.at? (b ++ [name]) ≠ none) :
    readFlows t folder (names.filter isFlowName) = readItems flowOf (names.map (t.itemAt b)) := by
  induction names with
  | nil => rfl
  | cons name names ih =>
    obtain ⟨⟨hname, hlength⟩, hnames⟩ := List.forall_mem_cons.1 hnames
    obtain ⟨hat, hthere⟩ := List.forall_mem_cons.1 hthere
    have hitem := namesFlow_itemAt t b name
    rw [List.map_cons, readItems, ← ih hnames hthere]
    by_cases hflow : isFlowName name = true
    · rw [List.filter_cons_of_pos hflow, if_pos (hitem.2 hflow), readFlows,
        hfolder.opens.contents_join hname, if_neg (Nat.not_lt.2 hlength), FileTree.itemAt]
      dsimp only
      cases hentry : t.at? (b ++ [name]) with
      | none => exact (hat hentry).elim
      | some entry =>
        cases entry with
        | folder => rfl
        | file bytes =>
          dsimp only [Except.mapError, bind, Except.bind]
          rw [flowOf]
          cases readFlows t folder (names.filter isFlowName) with
          | error e => rfl
          | ok flows => cases Decoder.ofBytes Flow.decoder bytes <;> rfl
    · rw [List.filter_cons_of_neg hflow, if_neg (mt hitem.1 hflow)]

/-- The flows of an organization are those in its folder. -/
theorem activeFlows_eq_items (hfolder : t.HasFolder (s.flowFolder org) b)
    (hnames : ∀ name ∈ t.namesAt b, IsName name ∧ name.utf8ByteSize ≤ nameLimit) :
    s.activeFlows t org = listItems flowOf (t.itemsAt b) := by
  rw [activeFlows, hfolder.names_eq]
  dsimp only
  rw [readFlows_eq_readItems hfolder hnames fun _ => FileTree.mem_namesAt.1, listItems,
    FileTree.itemsAt]
  cases readItems flowOf ((t.namesAt b).map (t.itemAt b)) <;> rfl

/-! ## What is listed -/

/-- The flows of an organization are listed from its folder, whatever else is there, as long as no
folder has the name of the file of a flow. Then they are the active flows of the files with such
names, in the order of their ids, and no other item makes a difference. Otherwise there is an error
and nothing is listed. What is said of the items holds however bytes are read. -/
theorem lists_unless_blocked (parse : List UInt8 → Option Flow) :
    (∀ (s : FileStore) (t : FileTree) (org : String) (b : FilePlace),
      t.HasFolder (s.flowFolder org) b →
        (∀ name ∈ t.namesAt b, IsName name ∧ name.utf8ByteSize ≤ nameLimit) →
          s.activeFlows t org = listItems flowOf (t.itemsAt b)) ∧
    (∀ text : String, flowOf text.toUTF8.toList = (Decoder.ofText Flow.decoder text).toOption) ∧
    (∀ items : List FolderItem, (¬∃ i ∈ items, i.Blocks) →
      ∃ fs, listItems parse items = .ok fs ∧ (fs.Pairwise fun f g => f.id ≤ g.id) ∧
        fs.Perm ((items.filterMap (·.flow? parse)).filter (·.isActive))) ∧
    (∀ items : List FolderItem, (∃ i ∈ items, i.Blocks) →
      listItems parse items =
        .error (.during "failed to read flow file" FileError.isFolder.message)) ∧
    ∀ (i : FolderItem) (l l' : List FolderItem), ¬i.Blocks →
      (∀ f, i.flow? parse = some f → f.isActive = false) →
        listItems parse (l ++ i :: l') = listItems parse (l ++ l') := by
  refine ⟨fun s t org b hfolder hnames => activeFlows_eq_items hfolder hnames, flowOf_toUTF8,
    fun items hfree => ?_, fun items hblocked => ?_, fun i l l' => listItems_insert⟩
  · rw [listItems_eq, if_neg hfree]
    exact ⟨_, rfl, pairwise_mergeSort_id _, List.mergeSort_perm _ _⟩
  · rw [listItems_eq, if_pos hblocked]

namespace Example

/-- A flow of no nodes. -/
def idleFlow : Flow := ⟨"flow-1", "Idle", [], [], true, none⟩

/-- The folder of the flows of the kitchen. -/
def kitchenPlace : FilePlace := ["pantry", "flows", "kitchen"]

/-- A tree with a flow in this folder, a note, bytes that are no flow and no text either, and a
folder that is hidden behind a dot. -/
def kitchenTree : FileTree :=
  ⟨[(["pantry"], .folder), (["pantry", "flows"], .folder), (kitchenPlace, .folder),
    (kitchenPlace ++ ["flow-1.json"], .text idleFlow.written.pretty),
    (kitchenPlace ++ ["notes.txt"], .text "ignore me"),
    (kitchenPlace ++ ["broken.json"], .file [0xFF]), (kitchenPlace ++ [".json"], .folder)], []⟩

/-- The same tree with a folder that has the name of the file of a flow. -/
def blockedTree : FileTree := kitchenTree.put (kitchenPlace ++ ["archive.json"]) .folder

theorem hasFolder_kitchen (ht : t = kitchenTree ∨ t = blockedTree) :
    t.HasFolder (pantry.flowFolder "kitchen") kitchenPlace := by
  rcases ht with rfl | rfl <;>
    exact ⟨by decide +kernel, by decide +kernel, by decide +kernel, by decide +kernel⟩

theorem names_kitchen (ht : t = kitchenTree ∨ t = blockedTree) :
    ∀ name ∈ t.namesAt kitchenPlace, IsName name ∧ name.utf8ByteSize ≤ nameLimit := by
  simp only [(FileTree.namesAt_perm t kitchenPlace).mem_iff]
  rcases ht with rfl | rfl <;> decide +kernel

/-- What the items of the folder hold, in the order of their places. -/
theorem items_kitchen :
    (kitchenTree.itemsAt kitchenPlace).Perm
      (["flow-1.json", "notes.txt", "broken.json", ".json"].map
        (kitchenTree.itemAt kitchenPlace)) := by
  have hnames : (kitchenTree.entries.map Prod.fst).filterMap (FileTree.nameIn? kitchenPlace) =
      ["flow-1.json", "notes.txt", "broken.json", ".json"] := by decide +kernel
  exact (hnames ▸ FileTree.namesAt_perm kitchenTree kitchenPlace).map _

theorem ofText_idleFlow : Decoder.ofText Flow.decoder idleFlow.written.pretty = .ok idleFlow :=
  Flow.ofText_written ⟨by simp [idleFlow], by simp [idleFlow]⟩ (by simp [Flow.Legible, idleFlow])

theorem lists_kitchen :
    kitchenTree.HasFolder (pantry.flowFolder "kitchen") kitchenPlace ∧
      pantry.activeFlows kitchenTree "kitchen" = .ok [idleFlow] := by
  obtain ⟨hfolder, -, hfree, -⟩ := lists_unless_blocked flowOf
  refine ⟨hasFolder_kitchen (.inl rfl), ?_⟩
  have hblocks : ¬∃ i ∈ kitchenTree.itemsAt kitchenPlace, i.Blocks := by
    simp only [items_kitchen.mem_iff]
    decide +kernel
  obtain ⟨fs, hfs, -, hperm⟩ := hfree _ hblocks
  rw [hfolder _ _ _ _ (hasFolder_kitchen (.inl rfl)) (names_kitchen (.inl rfl)), hfs]
  have hflows := hperm.trans ((items_kitchen.filterMap _).filter _)
  have hidle : (kitchenTree.itemAt kitchenPlace "flow-1.json").flow? flowOf = some idleFlow := by
    rw [flow?_of_file _ (by decide +kernel) rfl, flowOf_toUTF8, ofText_idleFlow]
    rfl
  have hnote : (kitchenTree.itemAt kitchenPlace "notes.txt").flow? flowOf = none :=
    flow?_of_other _ _ _ (by decide +kernel)
  have hbroken : (kitchenTree.itemAt kitchenPlace "broken.json").flow? flowOf = none := by
    rw [flow?_of_file _ (by decide +kernel) rfl, ← Option.isNone_iff_eq_none]
    decide +kernel
  have hhidden : (kitchenTree.itemAt kitchenPlace ".json").flow? flowOf = none :=
    flow?_of_other _ _ _ (by decide +kernel)
  simp only [List.map_cons, List.map_nil, List.filterMap_cons, List.filterMap_nil, hidle, hnote,
    hbroken, hhidden, List.filter_cons_of_pos, idleFlow, List.filter_nil] at hflows
  rw [List.perm_singleton.1 hflows, idleFlow]

/-- There are folders from which no flow is listed. -/
theorem not_lists_blocked :
    ¬∀ (s : FileStore) (t : FileTree) (org : String) (b : FilePlace),
      t.HasFolder (s.flowFolder org) b →
        (∀ name ∈ t.namesAt b, IsName name ∧ name.utf8ByteSize ≤ nameLimit) →
          ∃ fs, s.activeFlows t org = .ok fs := by
  intro h
  have hfolder := hasFolder_kitchen (.inr rfl)
  have hnames := names_kitchen (.inr rfl)
  obtain ⟨fs, hfs⟩ := h pantry blockedTree "kitchen" kitchenPlace hfolder hnames
  have hat : blockedTree.at? (kitchenPlace ++ ["archive.json"]) = some .folder := by decide +kernel
  have hblocked : ∃ i ∈ blockedTree.itemsAt kitchenPlace, i.Blocks := by
    refine ⟨_, List.mem_map.2 ⟨"archive.json", FileTree.mem_namesAt.2 (by simp [hat]), rfl⟩, ?_, ?_⟩
    · exact (namesFlow_itemAt _ _ _).2 (by decide +kernel)
    · rw [FileTree.itemAt, hat]
  rw [activeFlows_eq_items hfolder hnames, listItems_eq,
    if_pos hblocked] at hfs
  cases hfs

end Example
end FileStore
end KitchenFlow
