import KitchenFlow.Proofs.Store.Memory
import KitchenFlow.Proofs.Store.Replacement

/-!
# What stands below the folder of a store

A store in files is said to hold something if that stands below its folder and nothing else does.
Plain puts succeed exactly if the names in them are short enough, and a put that succeeds makes the
files of what a store in memory holds those of what it holds after the put. What a store in memory
holds that has served the same puts is then what the files hold.

    FileStore.Holds             what stands below the folder of a store
    FileStore.Yields            when a put succeeds and what it leaves
    FileStore.Holds.serve       one put
    FileStore.Holds.serveAll    one put after the other
-/

namespace KitchenFlow

open FilePath (IsName IsStem join nameLimit)

/-- The names are short enough, also that of the temporary file. -/
def StorePut.Short : StorePut → Prop
  | .flow org f =>
    org.utf8ByteSize ≤ nameLimit ∧ (f.id ++ ".json.tmp").utf8ByteSize ≤ nameLimit
  | .inventory org _ => (org ++ ".json.tmp").utf8ByteSize ≤ nameLimit
  | .credential _ => True

instance : (put : StorePut) → Decidable put.Short
  | .flow .. => inferInstanceAs (Decidable (_ ∧ _))
  | .inventory .. => inferInstanceAs (Decidable (_ ≤ _))
  | .credential _ => inferInstanceAs (Decidable True)

theorem Put.ok_andThen (t : FileTree) (next : FileTree → Put) :
    andThen ⟨.ok (), t⟩ next = next t := rfl

theorem Put.andThen_ok {p : Put} {next : FileTree → Put} (h : (p.andThen next).result = .ok ()) :
    p.result = .ok () := by
  rw [andThen] at h
  split at h
  · assumption
  · cases h

theorem Put.andThen_of_ok {p : Put} (h : p.result = .ok ()) (next : FileTree → Put) :
    p.andThen next = next p.tree := by
  rw [andThen, h]

namespace FileStore

variable {s : FileStore} {b p : FilePlace} {t u : FileTree} {m : MemoryStore} {org : String}
  {f : Flow} {items : List InventoryItem} {c : Credential} {e : FileEntry}
  {stands stands' : FilePlace → FileEntry → Prop} {short short' : Prop}

/-- Serves a put. -/
def serve (s : FileStore) (t : FileTree) : StorePut → Put
  | .flow org f => s.putFlow t org f
  | .inventory org items => s.putInventory t org items
  | .credential c => s.putCredential t c

/-- Serves puts, until one fails. -/
def serveAll (s : FileStore) (t : FileTree) : List StorePut → Put
  | [] => ⟨.ok (), t⟩
  | put :: puts => (s.serve t put).andThen fun t => s.serveAll t puts

/-! ## What stands below the folder of a store -/

/-- This stands below the folder of a store, under names that are short enough, and the tree lists
it once. -/
structure Holds (s : FileStore) (b : FilePlace) (t : FileTree)
    (stands : FilePlace → FileEntry → Prop) : Prop where
  base : t.HasFolder s.base b
  at_iff : ∀ p e, p ≠ [] → (t.at? (b ++ p) = some e ↔ stands p e)
  short : ∀ p e, stands p e → ∀ name ∈ p, name.utf8ByteSize ≤ nameLimit
  listed : (t.placesFrom b).Nodup

theorem Holds.congr (h : s.Holds b t stands) (heq : ∀ p e, stands' p e ↔ stands p e) :
    s.Holds b t stands' := by
  have hstands : stands' = stands := funext₂ fun p e => propext (heq p e)
  rwa [hstands]

theorem Holds.at_eq_none (h : s.Holds b t stands) (hp : p ≠ []) (hnone : ∀ e, ¬ stands p e) :
    t.at? (b ++ p) = none :=
  Option.eq_none_iff_forall_ne_some.2 fun e he => hnone e ((h.at_iff p e hp).1 he)

/-- A change at one place. -/
theorem Holds.set (h : s.Holds b t stands) (hsets : t.Sets u (b ++ p) e) (hp : p ≠ [])
    (hfolder : stands p .folder → e = .folder)
    (hshort : ∀ name ∈ p, name.utf8ByteSize ≤ nameLimit) :
    s.Holds b u fun q e' => if q = p then e' = e else stands q e' := by
  refine ⟨h.base.mono (hsets.keeps fun hat => hfolder ((h.at_iff p _ hp).1 hat)),
    fun q e' hq => ?_, fun q e' hq => ?_, hsets.listed b h.listed⟩
  · by_cases heq : q = p
    · rw [heq, hsets.at_self, if_pos rfl, Option.some_inj, eq_comm]
    · rw [hsets.at_of_ne (mt List.append_cancel_left heq), if_neg heq]
      exact h.at_iff q e' hq
  · split at hq
    · next heq => rwa [heq]
    · exact h.short q e' hq

theorem isName_flows : IsName "flows" := ⟨⟨by decide, by decide, by decide⟩, by decide, by decide⟩

theorem isName_inventory : IsName "inventory" :=
  ⟨⟨by decide, by decide, by decide⟩, by decide, by decide⟩

theorem isName_credentials : IsName "credentials.json" :=
  ⟨⟨by decide, by decide, by decide⟩, by decide, by decide⟩

theorem isStem_credentials : IsStem "credentials" := ⟨by decide, by decide, by decide⟩

theorem Holds.hasFolder_flows (h : s.Holds b t m.Stands) :
    t.HasFolder (join s.base "flows") (b ++ ["flows"]) :=
  h.base.opens.hasFolder_join isName_flows (by decide) ((h.at_iff _ _ (by simp)).2 .flows)

theorem Holds.hasFolder_inventory (h : s.Holds b t m.Stands) :
    t.HasFolder (join s.base "inventory") (b ++ ["inventory"]) :=
  h.base.opens.hasFolder_join isName_inventory (by decide) ((h.at_iff _ _ (by simp)).2 .inventory)

/-! ## What puts do -/

/-- A put succeeds under one condition only, and then this stands below the folder of the store. -/
structure Yields (s : FileStore) (b : FilePlace) (put : Put) (short : Prop)
    (stands : FilePlace → FileEntry → Prop) : Prop where
  ok_iff : put.result = .ok () ↔ short
  holds : put.result = .ok () → s.Holds b put.tree stands

theorem Yields.congr {put : Put} (h : s.Yields b put short stands) (hshort : short' ↔ short)
    (heq : ∀ p e, stands' p e ↔ stands p e) : s.Yields b put short' stands' :=
  ⟨h.ok_iff.trans hshort.symm, fun hok => (h.holds hok).congr heq⟩

section

variable {folder name stem text : String}

theorem forall_short_concat {name : String} (hnames : ∀ n ∈ p, n.utf8ByteSize ≤ nameLimit)
    (hlength : name.utf8ByteSize ≤ nameLimit) :
    ∀ n ∈ p ++ [name], n.utf8ByteSize ≤ nameLimit :=
  List.forall_mem_append.2 ⟨hnames, List.forall_mem_singleton.2 hlength⟩

/-- A folder is made sure of where no file stands. -/
theorem Holds.put_folder (h : s.Holds b t stands) (hfolder : t.HasFolder folder (b ++ p))
    (hname : IsName name) (hnames : ∀ n ∈ p, n.utf8ByteSize ≤ nameLimit)
    (hlength : name.utf8ByteSize ≤ nameLimit)
    (hnofile : ∀ bytes, ¬ stands (p ++ [name]) (.file bytes)) (what : String) :
    ∃ u, Put.folder what (join folder name) t = ⟨.ok (), u⟩ ∧
      u.HasFolder (join folder name) (b ++ (p ++ [name])) ∧
        s.Holds b u fun q e => if q = p ++ [name] then e = .folder else stands q e := by
  have hne : p ++ [name] ≠ [] := by simp
  have hat (bytes : List UInt8) : t.at? (b ++ p ++ [name]) ≠ some (.file bytes) := by
    rw [List.append_assoc]
    exact fun hat => hnofile bytes ((h.at_iff _ _ hne).1 hat)
  obtain ⟨u, hput, hsets⟩ := hfolder.opens.put_folder hname hlength hat what
  have hkept := hfolder.mono (hsets.keeps fun _ => rfl)
  have hmade := hkept.opens.hasFolder_join hname hlength hsets.at_self
  rw [List.append_assoc] at hsets hmade
  exact ⟨u, hput, hmade, h.set hsets hne (fun _ => rfl) (forall_short_concat hnames hlength)⟩

/-- A file is replaced where no folder stands. -/
theorem Holds.put_file (h : s.Holds b t stands) (hfolder : t.HasFolder folder (b ++ p))
    (hstem : IsStem stem) (hnames : ∀ n ∈ p, n.utf8ByteSize ≤ nameLimit)
    (htemporary : ∀ e, ¬ stands (p ++ [stem ++ ".json.tmp"]) e)
    (hnofolder : ¬ stands (p ++ [stem ++ ".json"]) .folder) (text : String) :
    s.Yields b (Put.file (join folder (stem ++ ".json")) text t)
      ((stem ++ ".json.tmp").utf8ByteSize ≤ nameLimit)
      fun q e => if q = p ++ [stem ++ ".json"] then e = .text text else stands q e := by
  have hne : p ++ [stem ++ ".json"] ≠ [] := by simp
  have hnone : t.at? (b ++ p ++ [stem ++ ".json.tmp"]) = none := by
    rw [List.append_assoc]
    exact h.at_eq_none (by simp) htemporary
  have hat : t.at? (b ++ p ++ [stem ++ ".json"]) ≠ some .folder := by
    rw [List.append_assoc]
    exact fun hat => hnofolder ((h.at_iff _ _ hne).1 hat)
  obtain ⟨hok_iff, hsets⟩ := hfolder.put_file hstem hnone hat text
  refine ⟨hok_iff, fun hok => ?_⟩
  have hsets := hsets hok
  rw [List.append_assoc] at hsets
  exact h.set hsets hne (fun he => (hnofolder he).elim)
    (forall_short_concat hnames (Nat.le_trans (FileTree.utf8ByteSize_json_le stem) (hok_iff.1 hok)))

end

/-- A flow is put into its file, after the folder of its organization has been made sure of. -/
theorem Holds.putFlow (h : s.Holds b t m.Stands) (horg : IsName org) (hid : IsStem f.id) :
    s.Yields b (s.putFlow t org f) (StorePut.flow org f).Short (m.putFlow org f).Stands := by
  by_cases hlength : org.utf8ByteSize ≤ nameLimit
  · have hflows : ∀ n ∈ ["flows"], n.utf8ByteSize ≤ nameLimit := by decide
    have hnofile (bytes : List UInt8) : ¬ m.Stands (["flows"] ++ [org]) (.file bytes) :=
      fun he => nomatch (MemoryStore.stands_folder.1 he).2
    obtain ⟨u, hput, hfolder, hu⟩ :=
      h.put_folder h.hasFolder_flows horg hflows hlength hnofile "org"
    have hrun : s.putFlow t org f =
        Put.file (join (join (join s.base "flows") org) (f.id ++ ".json")) f.written.pretty u := by
      rw [FileStore.putFlow, flowPath, flowFolder, hput, Put.ok_andThen]
    rw [hrun]
    refine (hu.put_file hfolder hid (forall_short_concat hflows hlength) (fun e he => ?_)
      (fun he => ?_) _).congr (and_iff_right hlength) fun p e => MemoryStore.stands_putFlow
    · rw [if_neg (by simp)] at he
      obtain ⟨g, -, hname, -⟩ := MemoryStore.stands_flow.1 he
      exact FilePath.json_ne_temporary _ _ hname
    · rw [if_neg (by simp)] at he
      obtain ⟨g, -, -, hentry⟩ := MemoryStore.stands_flow.1 he
      cases hentry
  · have hfails : (s.putFlow t org f).result ≠ .ok () := fun hok =>
      hlength (h.hasFolder_flows.opens.le_of_put_folder horg (Put.andThen_ok hok))
    exact ⟨⟨fun hok => (hfails hok).elim, fun hshort => (hlength hshort.1).elim⟩,
      fun hok => (hfails hok).elim⟩

theorem Holds.putInventory (h : s.Holds b t m.Stands) (horg : IsStem org) :
    s.Yields b (s.putInventory t org items) (StorePut.inventory org items).Short
      (m.putInventory org items).Stands := by
  refine (h.put_file h.hasFolder_inventory horg (by decide) (fun e he => ?_) (fun he => ?_)
    (inventoryText items)).congr Iff.rfl fun p e => MemoryStore.stands_putInventory
  · obtain ⟨o, held, -, hname, -⟩ := MemoryStore.stands_inventory.1 he
    exact FilePath.json_ne_temporary _ _ hname
  · obtain ⟨held, -, hentry⟩ := MemoryStore.stands_items.1 he
    cases hentry

/-- The credentials are read back in the order in which they were put. -/
theorem Holds.credentials_eq (h : s.Holds b t m.Stands) (hm : m.Proper) :
    s.credentials t = .ok m.credentials.reverse := by
  rw [credentials, credentialsPath, Device.attempt, h.base.opens.contents_join isName_credentials,
    if_neg (by decide)]
  cases hcs : m.credentials with
  | nil =>
    rw [h.at_eq_none (by simp) fun e he => (MemoryStore.stands_credentials.1 he).1 hcs]
    rfl
  | cons c cs =>
    have hne : m.credentials ≠ [] := by
      rw [hcs]
      exact List.cons_ne_nil _ _
    rw [(h.at_iff _ _ (by simp)).2 (.credentials hne), ← hcs]
    show (Decoder.ofBytes _ (credentialsText _).toUTF8.toList).mapError _ = _
    have hlegible : ∀ c ∈ m.credentials.reverse, c.Legible := fun c hc =>
      hm.credentials c (List.mem_reverse.1 hc)
    rw [Decoder.ofBytes_toUTF8, credentialsText, Credential.ofText_list hlegible]
    rfl

theorem Holds.putCredential (h : s.Holds b t m.Stands) (hm : m.Proper) :
    s.Yields b (s.putCredential t c) True (m.putCredential c).Stands := by
  have hbase : t.HasFolder s.base (b ++ []) := by
    rw [List.append_nil]
    exact h.base
  have hrun : s.putCredential t c = Put.file (join s.base ("credentials" ++ ".json"))
      (credentialsText ((m.credentials.reverse.filter fun d => d.id ≠ c.id) ++ [c])) t := by
    rw [FileStore.putCredential, Device.sound, h.credentials_eq hm]
    rfl
  have hlength : ("credentials" ++ ".json.tmp").utf8ByteSize ≤ nameLimit := by decide
  rw [hrun]
  refine (h.put_file hbase isStem_credentials (by simp) (fun e he => ?_) (fun he => ?_) _).congr
    (iff_true_intro hlength).symm fun p e => MemoryStore.stands_putCredential
  · rw [MemoryStore.stands_iff] at he
    simp at he
  · exact nomatch (MemoryStore.stands_credentials.1 he).2

/-- A plain put does to the files what it does to the store in memory, if its names are short. -/
theorem Holds.serve (h : s.Holds b t m.Stands) (hm : m.Proper) {put : StorePut}
    (hput : put.Plain) : s.Yields b (s.serve t put) put.Short (m.serve put).Stands := by
  cases put with
  | flow org f => exact h.putFlow hput.1 hput.2.1
  | inventory org items => exact h.putInventory hput.1
  | credential c => exact h.putCredential hm

/-- So do plain puts one after the other. -/
theorem Holds.serveAll (h : s.Holds b t m.Stands) (hm : m.Proper) {puts : List StorePut}
    (hputs : ∀ put ∈ puts, put.Plain) :
    s.Yields b (s.serveAll t puts) (∀ put ∈ puts, put.Short)
      (puts.foldl MemoryStore.serve m).Stands := by
  induction puts generalizing t m with
  | nil => exact ⟨iff_of_true rfl nofun, fun _ => h⟩
  | cons put puts ih =>
    obtain ⟨hput, hputs⟩ := List.forall_mem_cons.1 hputs
    have hfirst := h.serve hm hput
    rw [FileStore.serveAll]
    by_cases hok : (s.serve t put).result = .ok ()
    · have hrest := ih (hfirst.holds hok) (hm.serve hput) hputs
      rw [Put.andThen_of_ok hok]
      refine ⟨?_, hrest.holds⟩
      rw [hrest.ok_iff, List.forall_mem_cons, and_iff_right (hfirst.ok_iff.1 hok)]
    · have hfails : ((s.serve t put).andThen fun t => s.serveAll t puts).result ≠ .ok () :=
        fun hall => hok (Put.andThen_ok hall)
      refine ⟨⟨fun hall => (hfails hall).elim, fun hshort => ?_⟩, fun hall => (hfails hall).elim⟩
      exact (hok (hfirst.ok_iff.2 (hshort put List.mem_cons_self))).elim

end FileStore
end KitchenFlow
