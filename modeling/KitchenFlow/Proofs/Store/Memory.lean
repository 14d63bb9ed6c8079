import KitchenFlow.Proofs.Store.Paths
import KitchenFlow.Proofs.Store.Texts
import KitchenFlow.Store.Files
import Mathlib.Data.List.Nodup
import Mathlib.Tactic.MkIffOfInductiveProp

/-!
# What a store in memory holds

Puts are served one after the other, by a store in memory and by a store in files alike. Of a store
in memory that has served plain puts only, everything is plain and nothing is held twice. Such a
store says what has to stand below the folder of a store in files that has served the same puts, and
each put changes that at one place or, where the folder of an organization is wanted, at two.

    StorePut             a put
    StorePut.Plain       a put of names and contents that survive being written
    MemoryStore.Proper   what holds after plain puts
    MemoryStore.Stands   the files and folders that stand for what a store holds
-/

namespace KitchenFlow

open FilePath (IsName IsStem)

/-- A put into a store. -/
inductive StorePut where
  | flow (org : String) (f : Flow)
  | inventory (org : String) (items : List InventoryItem)
  | credential (c : Credential)

namespace StorePut

/-- The organization that a put is for. -/
def org? : StorePut → Option String
  | .flow org _ | .inventory org _ => some org
  | .credential _ => none

/-- The names lead one step down each, and the content is read back from its text. -/
def Plain : StorePut → Prop
  | .flow org f => IsName org ∧ IsStem f.id ∧ f.Sound ∧ f.Legible
  | .inventory org items => IsStem org ∧ ∀ i ∈ items, i.Legible
  | .credential c => c.Legible

end StorePut

/-- The text of an inventory. -/
def inventoryText (items : List InventoryItem) : String :=
  (Json.array (items.map (·.toJson))).pretty

/-- The text of credentials. -/
def credentialsText (cs : List Credential) : String := (Json.array (cs.map (·.toJson))).pretty

namespace MemoryStore

variable {m : MemoryStore} {org : String} {f g : Flow} {items : List InventoryItem}
  {c : Credential} {p : FilePlace} {e : FileEntry}

/-- Serves a put. -/
def serve (m : MemoryStore) : StorePut → MemoryStore
  | .flow org f => m.putFlow org f
  | .inventory org items => m.putInventory org items
  | .credential c => m.putCredential c

/-! ## What is held -/

/-- The flows of an organization. -/
def flowsOf (m : MemoryStore) (org : String) : List Flow :=
  (m.flows.filter fun e => e.1 == org).map (·.2)

theorem mem_flowsOf : f ∈ m.flowsOf org ↔ (org, f) ∈ m.flows := by
  simp [flowsOf]

theorem activeFlows_eq (m : MemoryStore) (org : String) :
    m.activeFlows org = (m.flowsOf org).filter (·.isActive) := by
  rw [activeFlows, flowsOf, List.filter_map, List.filter_filter]
  congr 2
  funext e
  exact Bool.and_comm _ _

theorem mem_flows_putFlow {o : String} :
    (o, g) ∈ (m.putFlow org f).flows ↔
      (o, g) ∈ m.flows ∧ (o = org → g.id ≠ f.id) ∨ o = org ∧ g = f := by
  simp [putFlow, imp_iff_not_or]

theorem mem_inventories_putInventory {o : String} {held : List InventoryItem} :
    (o, held) ∈ (m.putInventory org items).inventories ↔
      (o, held) ∈ m.inventories ∧ o ≠ org ∨ o = org ∧ held = items := by
  simp only [putInventory, List.mem_cons, List.mem_filter, decide_eq_true_eq, Prod.mk.injEq]
  exact or_comm

theorem reverse_credentials_putCredential (m : MemoryStore) (c : Credential) :
    (m.putCredential c).credentials.reverse =
      (m.credentials.reverse.filter fun d => d.id ≠ c.id) ++ [c] := by
  rw [putCredential, List.reverse_cons, List.filter_reverse]

/-- All that is held is plain, and nothing is held twice. -/
structure Proper (m : MemoryStore) : Prop where
  flows : ∀ e ∈ m.flows, StorePut.Plain (.flow e.1 e.2)
  inventories : ∀ e ∈ m.inventories, StorePut.Plain (.inventory e.1 e.2)
  credentials : ∀ c ∈ m.credentials, StorePut.Plain (.credential c)
  nodup_flows : (m.flows.map fun e => (e.1, e.2.id)).Nodup
  nodup_credentials : (m.credentials.map (·.id)).Nodup

theorem proper_empty : empty.Proper :=
  ⟨nofun, nofun, nofun, List.nodup_nil, List.nodup_nil⟩

theorem Proper.putFlow (h : m.Proper) (hput : StorePut.Plain (.flow org f)) :
    (m.putFlow org f).Proper := by
  refine { h with flows := fun e he => ?_, nodup_flows := ?_ }
  · rcases mem_flows_putFlow.1 he with ⟨he, -⟩ | ⟨horg, hf⟩
    · exact h.flows e he
    · rw [horg, hf]
      exact hput
  · rw [MemoryStore.putFlow, List.map_append, List.map_singleton, List.nodup_append]
    refine ⟨h.nodup_flows.sublist (List.filter_sublist.map _), (List.pairwise_singleton _ _), ?_⟩
    intro k hk k' hk' heq
    obtain ⟨e, he, rfl⟩ := List.mem_map.1 hk
    rw [List.mem_singleton.1 hk', Prod.mk.injEq] at heq
    simp [heq.1, heq.2] at he

theorem Proper.putInventory (h : m.Proper) (hput : StorePut.Plain (.inventory org items)) :
    (m.putInventory org items).Proper := by
  refine { h with inventories := fun e he => ?_ }
  rcases mem_inventories_putInventory.1 he with ⟨he, -⟩ | ⟨horg, hitems⟩
  · exact h.inventories e he
  · rw [horg, hitems]
    exact hput

theorem Proper.putCredential (h : m.Proper) (hput : StorePut.Plain (.credential c)) :
    (m.putCredential c).Proper := by
  refine { h with credentials := fun d hd => ?_, nodup_credentials := ?_ }
  · rcases List.mem_cons.1 hd with rfl | hd
    · exact hput
    · exact h.credentials d (List.mem_filter.1 hd).1
  · rw [MemoryStore.putCredential, List.map_cons, List.nodup_cons]
    refine ⟨fun hmem => ?_, h.nodup_credentials.sublist (List.filter_sublist.map _)⟩
    obtain ⟨d, hd, heq⟩ := List.mem_map.1 hmem
    simp [heq] at hd

/-- Plain puts leave a store proper. -/
theorem Proper.serve (h : m.Proper) {put : StorePut} (hput : put.Plain) : (m.serve put).Proper := by
  cases put with
  | flow org f => exact h.putFlow hput
  | inventory org items => exact h.putInventory hput
  | credential c => exact h.putCredential hput

theorem Proper.foldl (h : m.Proper) {puts : List StorePut} (hputs : ∀ put ∈ puts, put.Plain) :
    (puts.foldl MemoryStore.serve m).Proper := by
  induction puts generalizing m with
  | nil => exact h
  | cons put puts ih =>
    obtain ⟨hput, hputs⟩ := List.forall_mem_cons.1 hputs
    exact ih (h.serve hput) hputs

/-- Distinct flows of an organization have distinct ids. -/
theorem Proper.eq_of_id (h : m.Proper) (hf : f ∈ m.flowsOf org) (hg : g ∈ m.flowsOf org)
    (hid : f.id = g.id) : f = g := by
  have heq := List.inj_on_of_nodup_map h.nodup_flows (mem_flowsOf.1 hf) (mem_flowsOf.1 hg)
    (by rw [hid])
  exact congrArg Prod.snd heq

theorem Proper.nodup_flowsOf (h : m.Proper) (org : String) :
    ((m.flowsOf org).map (·.id)).Nodup := by
  have hkeys := h.nodup_flows.sublist
    ((List.filter_sublist (p := fun e : String × Flow => e.1 == org)).map _)
  rw [flowsOf, List.map_map]
  refine List.Nodup.of_map (fun id => (org, id)) ?_
  rw [List.map_map]
  convert hkeys using 1
  refine List.map_congr_left fun e he => ?_
  have horg : e.1 = org := by simpa using (List.mem_filter.1 he).2
  rw [horg]
  rfl

theorem flowsOf_putFlow_of_ne {o : String} (hne : o ≠ org) (m : MemoryStore) (f : Flow) :
    (m.putFlow o f).flowsOf org = m.flowsOf org := by
  rw [flowsOf, flowsOf, putFlow, List.filter_append, List.filter_filter,
    List.filter_singleton, beq_false_of_ne hne, cond_false, List.append_nil]
  congr 1
  refine List.filter_congr fun e _ => ?_
  by_cases he : e.1 = org
  · rw [he, beq_self_eq_true, beq_false_of_ne hne.symm]
    rfl
  · rw [beq_false_of_ne he, Bool.false_and]

theorem lookup_putInventory_of_ne {o : String} (hne : o ≠ org) (m : MemoryStore)
    (items : List InventoryItem) :
    (m.putInventory o items).inventories.lookup org = m.inventories.lookup org := by
  rw [putInventory, List.lookup_cons, beq_false_of_ne hne.symm, FileTree.lookup_filter_ne,
    if_neg hne.symm]

/-- A put for one organization changes nothing for another. -/
theorem reads_serve_of_ne {put : StorePut} (hother : put.org? ≠ some org) (m : MemoryStore) :
    (m.serve put).activeFlows org = m.activeFlows org ∧
      (m.serve put).itemsNearExpiry org = m.itemsNearExpiry org := by
  cases put with
  | credential c => exact ⟨rfl, rfl⟩
  | inventory o items =>
    have hne : o ≠ org := fun h => hother (congrArg some h)
    refine ⟨rfl, ?_⟩
    rw [itemsNearExpiry, itemsNearExpiry, serve, lookup_putInventory_of_ne hne]
  | flow o f =>
    have hne : o ≠ org := fun h => hother (congrArg some h)
    refine ⟨?_, rfl⟩
    rw [activeFlows_eq, activeFlows_eq, serve, flowsOf_putFlow_of_ne hne]

/-! ## What stands for it -/

/-- The files and folders below the folder of a store in files that holds the same. -/
@[mk_iff] inductive Stands (m : MemoryStore) : FilePlace → FileEntry → Prop where
  | flows : Stands m ["flows"] .folder
  | inventory : Stands m ["inventory"] .folder
  | org {org : String} {f : Flow} : (org, f) ∈ m.flows → Stands m ["flows", org] .folder
  | flow {org : String} {f : Flow} : (org, f) ∈ m.flows →
    Stands m ["flows", org, f.id ++ ".json"] (.text f.written.pretty)
  | items {org : String} {items : List InventoryItem} : (org, items) ∈ m.inventories →
    Stands m ["inventory", org ++ ".json"] (.text (inventoryText items))
  | credentials : m.credentials ≠ [] →
    Stands m ["credentials.json"] (.text (credentialsText m.credentials.reverse))

theorem stands_folder :
    m.Stands ["flows", org] e ↔ (∃ f, (org, f) ∈ m.flows) ∧ e = .folder := by
  rw [stands_iff]
  simp

theorem stands_flow {name : String} : m.Stands ["flows", org, name] e ↔
    ∃ f, (org, f) ∈ m.flows ∧ f.id ++ ".json" = name ∧ e = .text f.written.pretty := by
  rw [stands_iff]
  simp [@eq_comm _ name]

theorem stands_inventory {name : String} : m.Stands ["inventory", name] e ↔
    ∃ org items, (org, items) ∈ m.inventories ∧ org ++ ".json" = name ∧
      e = .text (inventoryText items) := by
  rw [stands_iff]
  simp [@eq_comm _ name]

theorem stands_items : m.Stands ["inventory", org ++ ".json"] e ↔
    ∃ items, (org, items) ∈ m.inventories ∧ e = .text (inventoryText items) := by
  rw [stands_inventory]
  simp [String.append_left_inj]

theorem stands_credentials : m.Stands ["credentials.json"] e ↔
    m.credentials ≠ [] ∧ e = .text (credentialsText m.credentials.reverse) := by
  rw [stands_iff]
  simp

theorem stands_empty : empty.Stands p e ↔ e = .folder ∧ (p = ["flows"] ∨ p = ["inventory"]) := by
  rw [stands_iff]
  simp [empty]
  tauto

/-- A flow stands in its file, in the folder of its organization. -/
theorem stands_putFlow : (m.putFlow org f).Stands p e ↔
    if p = ["flows", org, f.id ++ ".json"] then e = .text f.written.pretty
    else if p = ["flows", org] then e = .folder else m.Stands p e := by
  have hput : (org, f) ∈ (m.putFlow org f).flows := mem_flows_putFlow.2 (.inr ⟨rfl, rfl⟩)
  split
  · next hp =>
    refine ⟨fun h => ?_, fun he => hp ▸ he ▸ .flow hput⟩
    rw [hp] at h
    obtain ⟨g, hg, hid, he⟩ := stands_flow.1 h
    rcases mem_flows_putFlow.1 hg with ⟨-, hother⟩ | ⟨-, rfl⟩
    · exact (hother rfl ((String.append_left_inj _).1 hid)).elim
    · exact he
  split
  · next hp =>
    refine ⟨fun h => ?_, fun he => hp ▸ he ▸ .org hput⟩
    rw [hp] at h
    exact (stands_folder.1 h).2
  · next hfile hfolder =>
    refine ⟨fun h => ?_, fun h => ?_⟩
    · cases h with
      | flows => exact .flows
      | inventory => exact .inventory
      | org hmem =>
        rcases mem_flows_putFlow.1 hmem with ⟨hmem, -⟩ | ⟨rfl, -⟩
        · exact .org hmem
        · exact (hfolder rfl).elim
      | flow hmem =>
        rcases mem_flows_putFlow.1 hmem with ⟨hmem, -⟩ | ⟨rfl, rfl⟩
        · exact .flow hmem
        · exact (hfile rfl).elim
      | items hmem => exact .items hmem
      | credentials hne => exact .credentials hne
    · cases h with
      | flows => exact .flows
      | inventory => exact .inventory
      | org hmem =>
        exact .org (mem_flows_putFlow.2 (.inl ⟨hmem, fun ho => (hfolder (by rw [ho])).elim⟩))
      | flow hmem =>
        exact .flow (mem_flows_putFlow.2 (.inl ⟨hmem, fun ho hid => hfile (by rw [ho, hid])⟩))
      | items hmem => exact .items hmem
      | credentials hne => exact .credentials hne

theorem stands_putInventory : (m.putInventory org items).Stands p e ↔
    if p = ["inventory", org ++ ".json"] then e = .text (inventoryText items)
    else m.Stands p e := by
  have hput : (org, items) ∈ (m.putInventory org items).inventories :=
    mem_inventories_putInventory.2 (.inr ⟨rfl, rfl⟩)
  split
  · next hp =>
    refine ⟨fun h => ?_, fun he => hp ▸ he ▸ .items hput⟩
    rw [hp] at h
    obtain ⟨held, hheld, he⟩ := stands_items.1 h
    rcases mem_inventories_putInventory.1 hheld with ⟨-, hother⟩ | ⟨-, rfl⟩
    · exact (hother rfl).elim
    · exact he
  · next hp =>
    refine ⟨fun h => ?_, fun h => ?_⟩
    · cases h with
      | flows => exact .flows
      | inventory => exact .inventory
      | org hmem => exact .org hmem
      | flow hmem => exact .flow hmem
      | items hmem =>
        rcases mem_inventories_putInventory.1 hmem with ⟨hmem, -⟩ | ⟨rfl, rfl⟩
        · exact .items hmem
        · exact (hp rfl).elim
      | credentials hne => exact .credentials hne
    · cases h with
      | flows => exact .flows
      | inventory => exact .inventory
      | org hmem => exact .org hmem
      | flow hmem => exact .flow hmem
      | items hmem =>
        exact .items (mem_inventories_putInventory.2 (.inl ⟨hmem, fun ho => hp (by rw [ho])⟩))
      | credentials hne => exact .credentials hne

theorem stands_putCredential : (m.putCredential c).Stands p e ↔
    if p = ["credentials.json"] then
      e = .text (credentialsText ((m.credentials.reverse.filter fun d => d.id ≠ c.id) ++ [c]))
    else m.Stands p e := by
  rw [← reverse_credentials_putCredential]
  have hne : (m.putCredential c).credentials ≠ [] := List.cons_ne_nil _ _
  split
  · next hp =>
    rw [hp, stands_credentials]
    exact and_iff_right hne
  · next hp =>
    rw [stands_iff, stands_iff]
    simp [hp, putCredential]

end MemoryStore
end KitchenFlow
