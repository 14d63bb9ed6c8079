import KitchenFlow.Proofs.Store.Tree
import KitchenFlow.Store.Files

/-!
# Changes at one place

To make sure of a folder comes to one change: afterwards a folder stands at one place, and all else
is as before. It succeeds if the name is short enough, and fails if it is not.

    FileTree.Sets                      a change at one place
    FileTree.Opens.put_folder          a folder in a folder is made
-/

namespace KitchenFlow

open FilePath (IsName join nameLimit)

namespace FileTree

variable {t u : FileTree} {p q b : FilePlace} {e : FileEntry} {folder name what : String}

/-! ## Changes at one place -/

/-- Something stands at a place, and all else is as it was. -/
structure Sets (t u : FileTree) (p : FilePlace) (e : FileEntry) : Prop where
  home : u.home = t.home
  at_eq : ∀ q, u.at? q = if q = p then some e else t.at? q
  listed : ∀ b, (t.placesFrom b).Nodup → (u.placesFrom b).Nodup

theorem sets_put (hp : p ≠ []) (e : FileEntry) : t.Sets (t.put p e) p e :=
  ⟨rfl, fun q => at?_put e q hp, fun _ hb => nodup_placesFrom_put hb p e⟩

/-- What is there already need not be put. -/
theorem sets_self (h : t.at? p = some e) : t.Sets t p e := by
  refine ⟨rfl, fun q => ?_, fun _ hb => hb⟩
  split
  · next hq => rw [hq, h]
  · rfl

theorem Sets.at_self (h : t.Sets u p e) : u.at? p = some e := by rw [h.at_eq, if_pos rfl]

theorem Sets.at_of_ne (h : t.Sets u p e) (hq : q ≠ p) : u.at? q = t.at? q := by
  rw [h.at_eq, if_neg hq]

/-- Folders stay, unless a file takes the place of one. -/
theorem Sets.keeps (h : t.Sets u p e) (hp : t.at? p = some .folder → e = .folder) : t.Keeps u := by
  refine ⟨h.home, fun q hq => ?_⟩
  by_cases heq : q = p
  · rw [heq] at hq ⊢
    rw [h.at_self, hp hq]
  · rw [h.at_of_ne heq, hq]

/-- A file that is put where nothing stood and moved from there is set where it is moved to. -/
theorem sets_move (hp : p ≠ []) (hq : q ≠ []) (hat : t.at? p = none) :
    t.Sets (((t.put p e).erase p).put q e) q e := by
  refine ⟨rfl, fun r => ?_, fun b hb => ?_⟩
  · rw [at?_put e r hq, at?_erase r hp, at?_put e r hp]
    split_ifs with _ h
    · rfl
    · rw [h, hat]
    · rfl
  · exact nodup_placesFrom_put (nodup_placesFrom_erase (nodup_placesFrom_put hb p e) p) q e

/-! ## A folder in a folder -/

theorem Opens.makeFolder_join (h : t.Opens folder p) (hname : IsName name) :
    t.makeFolder (t.start (join folder name)) (FilePath.steps (join folder name)) =
      if nameLimit < name.utf8ByteSize then .error .nameTooLong
      else
        match t.at? (p ++ [name]) with
        | some _ => .error .occupied
        | none => .ok (t.put (p ++ [name]) .folder) := by
  rw [makeFolder, h.follow_join hname]
  split <;> rfl

theorem Opens.makeFolders_join (h : t.Opens folder p) (hname : IsName name)
    (hlength : name.utf8ByteSize ≤ nameLimit)
    (hat : ∀ bytes, t.at? (p ++ [name]) ≠ some (.file bytes)) :
    ∃ u, t.makeFolders (join folder name) = (.ok (), u) ∧ t.Sets u (p ++ [name]) .folder := by
  have hzero := FilePath.contains_zero_join h.no_zero hname
  have hmake := h.makeFolder_join hname
  rw [if_neg (Nat.not_lt.2 hlength)] at hmake
  rw [makeFolders, hzero, if_neg Bool.false_ne_true, makeFoldersAlong, hmake]
  cases hentry : t.at? (p ++ [name]) with
  | none => exact ⟨_, rfl, sets_put (by simp) .folder⟩
  | some entry =>
    cases entry with
    | file bytes => exact (hat bytes hentry).elim
    | folder =>
      have hleads : t.leadsToFolder (t.start (join folder name))
          (FilePath.steps (join folder name)) = true := by
        rw [leadsToFolder, h.follow_join hname, if_neg (Nat.not_lt.2 hlength)]
        simp [hentry]
      exact ⟨t, if_pos hleads, sets_self hentry⟩

theorem Opens.makeFolders_long (h : t.Opens folder p) (hname : IsName name)
    (hlength : nameLimit < name.utf8ByteSize) :
    t.makeFolders (join folder name) = (.error .nameTooLong, t) := by
  have hzero := FilePath.contains_zero_join h.no_zero hname
  have hmake := h.makeFolder_join hname
  rw [if_pos hlength] at hmake
  have hleads : t.leadsToFolder (t.start (join folder name))
      (FilePath.steps (join folder name)) = false := by
    rw [leadsToFolder, h.follow_join hname, if_pos hlength]
  rw [makeFolders, hzero, if_neg Bool.false_ne_true, makeFoldersAlong, hmake]
  exact if_neg (by rw [hleads]; exact Bool.false_ne_true)

/-- A folder in a folder can be had if its name is short enough. -/
theorem Opens.put_folder (h : t.Opens folder p) (hname : IsName name)
    (hlength : name.utf8ByteSize ≤ nameLimit)
    (hat : ∀ bytes, t.at? (p ++ [name]) ≠ some (.file bytes)) (what : String) :
    ∃ u, Put.folder what (join folder name) t = ⟨.ok (), u⟩ ∧ t.Sets u (p ++ [name]) .folder := by
  obtain ⟨u, hmake, hsets⟩ := h.makeFolders_join hname hlength hat
  refine ⟨u, ?_, hsets⟩
  rw [Put.folder, hmake]
  rfl

theorem Opens.le_of_put_folder (h : t.Opens folder p) (hname : IsName name)
    (hok : (Put.folder what (join folder name) t).result = .ok ()) :
    name.utf8ByteSize ≤ nameLimit := by
  by_contra hlong
  rw [Put.folder, h.makeFolders_long hname (Nat.lt_of_not_le hlong)] at hok
  cases hok

theorem holder_concat (hname : IsName name) (steps : List String) :
    FilePath.holder (steps ++ [name]) = steps := by
  have hdot : (name == ".") = false := beq_false_of_ne hname.ne_dot
  simp [FilePath.holder, hdot]

/-- Where the folder that is to hold a folder is not there, it is made first. -/
theorem Opens.makeFolders_within {inner : String} (h : t.Opens folder p)
    (hname : IsName name) (hlength : name.utf8ByteSize ≤ nameLimit)
    (hat : t.at? (p ++ [name]) = none) (hinner : IsName inner)
    (hshort : inner.utf8ByteSize ≤ nameLimit) (hnone : t.at? (p ++ [name] ++ [inner]) = none) :
    t.makeFolders (join (join folder name) inner) =
      (t.put (p ++ [name]) .folder).makeFolders (join (join folder name) inner) := by
  have hsets : t.Sets (t.put (p ++ [name]) .folder) _ _ := sets_put (by simp) .folder
  have hmade := (h.mono (hsets.keeps fun _ => rfl)).hasFolder_join hname hlength hsets.at_self
  have hzero := FilePath.contains_zero_join hmade.no_zero hinner
  have hsteps := FilePath.steps_join (join folder name) hinner
  have hstart : t.start (join (join folder name) inner) = t.start (join folder name) := by
    rw [start, start, FilePath.startsWith_join (join folder name) hinner.no_slash]
  have habsent : t.makeFolder (t.start (join (join folder name) inner))
      (FilePath.steps (join (join folder name) inner)) = .error .absent := by
    rw [makeFolder, hstart, hsteps, follow_append, h.follow_join hname,
      if_neg (Nat.not_lt.2 hlength)]
    show (t.follow (p ++ [name]) [inner] >>= _) = _
    rw [FileTree.follow, hat]
    rfl
  have houter : t.makeFoldersAlong (t.start (join (join folder name) inner))
      (FilePath.steps (join folder name)) = (.ok (), t.put (p ++ [name]) .folder) := by
    rw [makeFoldersAlong, hstart, h.makeFolder_join hname, if_neg (Nat.not_lt.2 hlength), hat]
  have hwithin := hmade.opens.makeFolder_join hinner
  rw [if_neg (Nat.not_lt.2 hshort), hsets.at_of_ne (by simp), hnone] at hwithin
  have hright : (t.put (p ++ [name]) .folder).makeFolders (join (join folder name) inner) =
      (.ok (), (t.put (p ++ [name]) .folder).put (p ++ [name] ++ [inner]) .folder) := by
    rw [makeFolders, hzero, if_neg Bool.false_ne_true, makeFoldersAlong, hwithin]
  have hensure : (t.put (p ++ [name]) .folder).ensureFolder
      (t.start (join (join folder name) inner)) (FilePath.steps (join folder name) ++ [inner]) =
      .ok ((t.put (p ++ [name]) .folder).put (p ++ [name] ++ [inner]) .folder) := by
    have hsame : t.start (join (join folder name) inner) =
      (t.put (p ++ [name]) .folder).start (join (join folder name) inner) := rfl
    rw [← hsteps, ensureFolder, hsame, hwithin]
  rw [hright, makeFolders, hzero, if_neg Bool.false_ne_true, makeFoldersAlong, habsent]
  dsimp only
  rw [dif_neg (by rw [hsteps]; simp), hsteps, holder_concat hinner, houter]
  dsimp only
  rw [hensure]

end FileTree
end KitchenFlow
