import KitchenFlow.Proofs.Fallible
import KitchenFlow.Proofs.Store.Paths
import Mathlib.Data.List.Nodup

/-!
# Files in folders

To follow a path is to pass through folders, so a path leads where it led as long as no folder is
taken away. What a path comes to that joins a name to the path of a folder depends on what stands
at one place only:

    FileTree.Keeps              what a change keeps that takes no folder away
    FileTree.Opens              a path to which names can be joined
    FileTree.HasFolder          a path that leads to a folder
    FileTree.Opens.place_join   the place of a name in a folder
    FileTree.mem_namesAt        the names in a folder are those at which something stands
-/

namespace KitchenFlow

open FilePath (IsName join steps nameLimit)

namespace FileTree

variable {t u : FileTree} {p q b : FilePlace} {folder name : String} {e : FileEntry}

/-! ## Ways through folders -/

/-- One tree has the folders of another, and the same home. -/
structure Keeps (t u : FileTree) : Prop where
  home : u.home = t.home
  folder : ∀ p, t.at? p = some .folder → u.at? p = some .folder

theorem Keeps.refl (t : FileTree) : t.Keeps t := ⟨rfl, fun _ => id⟩

/-- A way through folders is still there if the folders are. -/
theorem Keeps.follow (h : t.Keeps u) {steps : List String} (hsteps : t.follow p steps = .ok q) :
    u.follow p steps = .ok q := by
  induction steps generalizing p with
  | nil => exact hsteps
  | cons s steps ih =>
    rw [FileTree.follow] at hsteps ⊢
    cases hat : t.at? p with
    | none =>
      rw [hat] at hsteps
      cases hsteps
    | some entry =>
      cases entry with
      | file bytes =>
        rw [hat] at hsteps
        cases hsteps
      | folder =>
        rw [hat] at hsteps
        rw [h.folder p hat]
        dsimp only at hsteps ⊢
        split_ifs at hsteps ⊢
        · exact ih hsteps
        · exact ih hsteps
        · exact ih hsteps

theorem follow_append (t : FileTree) (p : FilePlace) (l m : List String) :
    t.follow p (l ++ m) = t.follow p l >>= fun q => t.follow q m := by
  induction l generalizing p with
  | nil => rfl
  | cons s l ih =>
    rw [List.cons_append, follow, follow]
    cases t.at? p with
    | none => rfl
    | some entry =>
      cases entry with
      | file bytes => rfl
      | folder =>
        dsimp only
        split_ifs
        · exact ih p
        · exact ih p.dropLast
        · rfl
        · exact ih (p ++ [s])

/-! ## Names in a folder -/

/-- A path to which names can be joined: it leads to a folder, and may also be empty, as that of the
home. -/
structure Opens (t : FileTree) (path : String) (p : FilePlace) : Prop where
  no_zero : '\x00' ∉ path.toList
  follow : t.follow (t.start path) (steps path) = .ok p
  at_eq : t.at? p = some .folder

/-- A path that leads to a folder. -/
structure HasFolder (t : FileTree) (path : String) (p : FilePlace) : Prop where
  ne_empty : path ≠ ""
  no_zero : '\x00' ∉ path.toList
  follow : t.follow (t.start path) (steps path) = .ok p
  at_eq : t.at? p = some .folder

theorem Opens.hasFolder (h : t.Opens folder p) (hne : folder ≠ "") : t.HasFolder folder p :=
  ⟨hne, h.no_zero, h.follow, h.at_eq⟩

theorem HasFolder.opens (h : t.HasFolder folder p) : t.Opens folder p :=
  ⟨h.no_zero, h.follow, h.at_eq⟩

theorem Opens.unique (h : t.Opens folder p) (h' : t.Opens folder q) : p = q :=
  Except.ok.inj (h.follow.symm.trans h'.follow)

theorem Opens.mono (h : t.Opens folder p) (hu : t.Keeps u) : u.Opens folder p := by
  refine ⟨h.no_zero, ?_, hu.folder p h.at_eq⟩
  have hstart : u.start folder = t.start folder := by rw [start, start, hu.home]
  rw [hstart]
  exact hu.follow h.follow

theorem HasFolder.mono (h : t.HasFolder folder p) (hu : t.Keeps u) : u.HasFolder folder p :=
  (h.opens.mono hu).hasFolder h.ne_empty

/-- To follow a joined path is to follow the path of the folder and then the name. -/
theorem follow_join (t : FileTree) (folder : String) (hname : IsName name) :
    t.follow (t.start (join folder name)) (steps (join folder name)) =
      t.follow (t.start folder) (steps folder) >>= fun p => t.follow p [name] := by
  rw [start, FilePath.startsWith_join folder hname.no_slash, FilePath.steps_join folder hname,
    follow_append]
  rfl

/-- A name in a folder stands for a place in it, unless it is too long. -/
theorem Opens.follow_join (h : t.Opens folder p) (hname : IsName name) :
    t.follow (t.start (join folder name)) (steps (join folder name)) =
      if nameLimit < name.utf8ByteSize then .error .nameTooLong else .ok (p ++ [name]) := by
  rw [FileTree.follow_join t folder hname, h.follow]
  show t.follow p [name] = _
  rw [FileTree.follow, h.at_eq]
  dsimp only
  rw [if_neg hname.ne_dot, if_neg hname.ne_dots]
  rfl

theorem Opens.locate_join (h : t.Opens folder p) (hname : IsName name) :
    t.locate (join folder name) (steps (join folder name)) =
      if nameLimit < name.utf8ByteSize then .error .nameTooLong else .ok (p ++ [name]) := by
  rw [locate, FilePath.contains_zero_join h.no_zero hname,
    beq_false_of_ne (FilePath.join_ne_empty folder hname), ← h.follow_join hname]
  rfl

theorem Opens.place_join (h : t.Opens folder p) (hname : IsName name) :
    t.place (join folder name) =
      if nameLimit < name.utf8ByteSize then .error .nameTooLong else .ok (p ++ [name]) := by
  rw [place, FilePath.endsWith_join folder hname, ← h.locate_join hname]
  simp

/-- The path of a folder in a folder. -/
theorem Opens.hasFolder_join (h : t.Opens folder p) (hname : IsName name)
    (hlength : name.utf8ByteSize ≤ nameLimit) (hat : t.at? (p ++ [name]) = some .folder) :
    t.HasFolder (join folder name) (p ++ [name]) := by
  refine ⟨FilePath.join_ne_empty folder hname, ?_, ?_, hat⟩
  · exact mt (FilePath.zero_mem_join folder hname).1 h.no_zero
  · rw [h.follow_join hname, if_neg (Nat.not_lt.2 hlength)]

/-- What is read in a folder. -/
theorem Opens.contents_join (h : t.Opens folder p) (hname : IsName name) :
    t.contents (join folder name) =
      if nameLimit < name.utf8ByteSize then .error .nameTooLong
      else
        match t.at? (p ++ [name]) with
        | none => .error .absent
        | some .folder => .error .isFolder
        | some (.file bytes) => .ok bytes := by
  rw [contents, h.place_join hname]
  split <;> rfl

/-- The names in a folder in a folder. -/
theorem Opens.names_join (h : t.Opens folder p) (hname : IsName name) :
    t.names (join folder name) =
      if nameLimit < name.utf8ByteSize then .error .nameTooLong
      else
        match t.at? (p ++ [name]) with
        | none => .error .absent
        | some (.file _) => .error .notFolder
        | some .folder => .ok (t.namesAt (p ++ [name])) := by
  rw [names, h.place_join hname]
  split <;> rfl

/-- The path of a folder leads to it, also if it ends in `/`. -/
theorem HasFolder.place_eq (h : t.HasFolder folder p) : t.place folder = .ok p := by
  have hzero := mt List.contains_iff_mem.1 h.no_zero
  rw [place, locate, if_neg hzero, if_neg (by simpa using h.ne_empty), follow_append, h.follow]
  show t.follow p _ = _
  split
  · rw [FileTree.follow, h.at_eq]
    rfl
  · rfl

theorem HasFolder.names_eq (h : t.HasFolder folder p) : t.names folder = .ok (t.namesAt p) := by
  rw [names, h.place_eq]
  dsimp only [bind, Except.bind]
  rw [h.at_eq]

/-! ## What stands below a place -/

/-- The places from here on at which something stands, as often as the tree lists them. -/
def placesFrom (t : FileTree) (b : FilePlace) : List FilePlace :=
  (t.entries.map Prod.fst).filter b.isPrefixOf

theorem mem_placesFrom (hq : q ≠ []) (hat : t.at? q = some e) (hb : b <+: q) :
    q ∈ t.placesFrom b := by
  rw [at?, if_neg hq] at hat
  obtain ⟨l, l', hl, -⟩ := List.lookup_eq_some_iff.1 hat
  rw [placesFrom, List.mem_filter, hl]
  exact ⟨by simp, List.isPrefixOf_iff_prefix.2 hb⟩

theorem placesFrom_erase_sublist (t : FileTree) (b p : FilePlace) :
    ((t.erase p).placesFrom b).Sublist (t.placesFrom b) :=
  (List.filter_sublist.map Prod.fst).filter _

theorem placesFrom_put (t : FileTree) (b p : FilePlace) (e : FileEntry) :
    (t.put p e).placesFrom b =
      if b.isPrefixOf p then p :: (t.erase p).placesFrom b else (t.erase p).placesFrom b := by
  rw [placesFrom, put, List.map_cons, List.filter_cons]
  rfl

theorem nodup_placesFrom_erase (h : (t.placesFrom b).Nodup) (p : FilePlace) :
    ((t.erase p).placesFrom b).Nodup :=
  h.sublist (placesFrom_erase_sublist t b p)

theorem nodup_placesFrom_put (h : (t.placesFrom b).Nodup) (p : FilePlace) (e : FileEntry) :
    ((t.put p e).placesFrom b).Nodup := by
  have hrest := nodup_placesFrom_erase h p
  rw [placesFrom_put]
  split
  · refine List.nodup_cons.2 ⟨fun hp => ?_, hrest⟩
    rw [placesFrom, erase, List.mem_filter] at hp
    obtain ⟨entry, hentry, rfl⟩ := List.mem_map.1 hp.1
    simp at hentry
  · exact hrest

/-- The name of a place in a folder, if it is one. -/
def nameIn? (p q : FilePlace) : Option String := if q.dropLast = p then q.getLast? else none

theorem nameIn?_eq_some_iff : nameIn? p q = some name ↔ q = p ++ [name] := by
  rw [nameIn?]
  constructor
  · intro h
    split at h
    · next hq =>
      rw [← hq]
      exact (List.dropLast_append_getLast? name h).symm
    · cases h
  · rintro rfl
    rw [List.dropLast_concat, if_pos rfl, List.getLast?_concat]

theorem namesAt_perm (t : FileTree) (p : FilePlace) :
    (t.namesAt p).Perm ((t.entries.map Prod.fst).filterMap (nameIn? p)) := by
  rw [List.filterMap_map]
  exact List.mergeSort_perm _ _

/-- The names in a folder are those at which something stands. -/
theorem mem_namesAt : name ∈ t.namesAt p ↔ t.at? (p ++ [name]) ≠ none := by
  rw [(namesAt_perm t p).mem_iff, List.mem_filterMap, at?, if_neg (by simp)]
  simp only [nameIn?_eq_some_iff, exists_eq_right, ne_eq, List.lookup_eq_none_iff, not_forall]
  simp only [List.mem_map, Prod.exists, exists_and_right, exists_eq_right]
  constructor
  · rintro ⟨entry, h⟩
    exact ⟨_, entry, h, by simp⟩
  · rintro ⟨q, entry, h, heq⟩
    simp only [bne_iff_ne, ne_eq, not_not] at heq
    exact ⟨entry, heq ▸ h⟩

/-- Each name is listed once if each place is. -/
theorem nodup_namesAt (h : (t.placesFrom b).Nodup) (hb : b <+: p) :
    (t.namesAt p).Nodup := by
  rw [(namesAt_perm t p).nodup_iff]
  have hplaces : (t.entries.map Prod.fst).filterMap (nameIn? p) =
      (t.placesFrom b).filterMap (nameIn? p) := by
    rw [placesFrom, List.filterMap_filter]
    refine List.filterMap_congr fun q _ => ?_
    split
    · rfl
    · next hq =>
      rw [Option.eq_none_iff_forall_ne_some]
      rintro name hname
      rw [nameIn?_eq_some_iff.1 hname] at hq
      exact hq (List.isPrefixOf_iff_prefix.2 (hb.trans (List.prefix_append p [name])))
  rw [hplaces]
  refine h.filterMap fun q q' name hq hq' => ?_
  rw [nameIn?_eq_some_iff.1 hq, nameIn?_eq_some_iff.1 hq']

end FileTree
end KitchenFlow
