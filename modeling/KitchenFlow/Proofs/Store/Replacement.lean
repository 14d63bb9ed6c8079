import KitchenFlow.Proofs.Store.Changes

/-!
# Files that are replaced

A file is replaced by way of a temporary file beside it. This may fail at any step: the path may
lead nowhere, a folder may stand where the temporary file would, or where the file would, and the
device may refuse to write or to move the temporary file, or give up on it half way. Whatever the
path, the tree and the device, the file then holds what it held before, as a device that fails has
only come to the temporary file; and if all goes well it holds the new text.

    FileTree.target_join            where a file can be written
    Put.file_cases                  what comes of a file that is put
    Put.file_ok_iff                 when a file can be put
    Put.contents_file               what is in the file after it has been put
    FileTree.HasFolder.put_file     a file in a folder is replaced
-/

namespace KitchenFlow

open FilePath (IsName IsStem join nameLimit steps)

variable {t u : FileTree} {p b : FilePlace} {folder name stem text : String} {bytes : List UInt8}
  {device : Device}

/-! ## Where files can be written -/

namespace FileTree

theorem follow_singleton (hname : IsName name) :
    t.follow b [name] = .ok p ↔
      t.at? b = some .folder ∧ name.utf8ByteSize ≤ nameLimit ∧ b ++ [name] = p := by
  rw [FileTree.follow]
  cases t.at? b with
  | none => simp
  | some entry =>
    cases entry with
    | file bytes => simp
    | folder =>
      dsimp only
      rw [if_neg hname.ne_dot, if_neg hname.ne_dots]
      split_ifs with hlong
      · simp [Nat.not_le.2 hlong]
      · rw [FileTree.follow, Except.ok.injEq, and_iff_right rfl,
          and_iff_right (Nat.le_of_not_lt hlong)]

/-- A joined path leads somewhere exactly if the path that the name is joined to leads to a folder,
and the name is short enough. -/
theorem locate_join_eq_ok_iff (hname : IsName name) :
    t.locate (join folder name) (steps (join folder name)) = .ok p ↔
      ∃ b, t.Opens folder b ∧ name.utf8ByteSize ≤ nameLimit ∧ b ++ [name] = p := by
  have hne := beq_false_of_ne (FilePath.join_ne_empty folder hname)
  by_cases hzero : '\x00' ∈ folder.toList
  · have hjoined := (FilePath.zero_mem_join folder hname).2 hzero
    rw [locate, if_pos (List.contains_iff_mem.2 hjoined)]
    constructor
    · intro h
      cases h
    · rintro ⟨b, hopens, -⟩
      exact (hopens.no_zero hzero).elim
  · have hjoined := mt (FilePath.zero_mem_join folder hname).1 hzero
    rw [locate, if_neg (mt List.contains_iff_mem.1 hjoined), hne, if_neg Bool.false_ne_true,
      follow_join t folder hname, Fallible.bind_eq_ok_iff]
    constructor
    · rintro ⟨b, hfollow, hlast⟩
      obtain ⟨hat, hlength, hp⟩ := (follow_singleton hname).1 hlast
      exact ⟨b, ⟨hzero, hfollow, hat⟩, hlength, hp⟩
    · rintro ⟨b, hopens, hlength, hp⟩
      exact ⟨b, hopens.follow, (follow_singleton hname).2 ⟨hopens.at_eq, hlength, hp⟩⟩

theorem Opens.move_join {other : String} (h : t.Opens folder b) (hname : IsName name)
    (hlength : name.utf8ByteSize ≤ nameLimit) (hother : IsName other)
    (hshort : other.utf8ByteSize ≤ nameLimit) (hat : t.at? (b ++ [name]) = some (.file bytes)) :
    t.move (join folder name) (join folder other) =
      if t.at? (b ++ [other]) = some .folder then .error .isFolder
      else .ok ((t.erase (b ++ [name])).put (b ++ [other]) (.file bytes)) := by
  rw [move, h.place_join hname, h.place_join hother, if_neg (Nat.not_lt.2 hlength),
    if_neg (Nat.not_lt.2 hshort)]
  dsimp only [bind, Except.bind]
  rw [hat]
  cases t.at? (b ++ [other]) with
  | none => rfl
  | some entry =>
    cases entry with
    | file bytes => rfl
    | folder => rfl

/-- A file can be written where a path leads into a folder and no folder stands. -/
theorem target_join (hname : IsName name) :
    t.target (join folder name) = .ok p ↔
      ∃ b, t.Opens folder b ∧ name.utf8ByteSize ≤ nameLimit ∧
        t.at? (b ++ [name]) ≠ some .folder ∧ b ++ [name] = p := by
  rw [target, FilePath.endsWith_join folder hname, Fallible.bind_eq_ok_iff]
  constructor
  · rintro ⟨p, hlocate, h⟩
    obtain ⟨b, hopens, hlength, rfl⟩ := (locate_join_eq_ok_iff hname).1 hlocate
    rw [if_neg Bool.false_ne_true] at h
    split at h
    · cases h
    · next hat => exact ⟨b, hopens, hlength, hat, Except.ok.inj h⟩
  · rintro ⟨b, hopens, hlength, hat, rfl⟩
    refine ⟨_, (locate_join_eq_ok_iff hname).2 ⟨b, hopens, hlength, rfl⟩, ?_⟩
    rw [if_neg Bool.false_ne_true]
    split
    · next hfolder => exact (hat hfolder).elim
    · rfl

/-- No folder goes where a file is moved over what is none. -/
theorem keeps_move {q : FilePlace} (hp : p ≠ []) (hq : q ≠ []) (hat : t.at? p ≠ some .folder)
    (htarget : t.at? q ≠ some .folder) (bytes : List UInt8) :
    t.Keeps (((t.put p (.file bytes)).erase p).put q (.file bytes)) := by
  refine ⟨rfl, fun r hr => ?_⟩
  rw [at?_put _ r hq, at?_erase r hp, at?_put _ r hp]
  split_ifs with hrq hrp
  · exact (htarget (hrq ▸ hr)).elim
  · exact (hat (hrp ▸ hr)).elim
  · exact hr

/-- The longer of the two names is that of the temporary file. -/
theorem utf8ByteSize_json_le (stem : String) :
    (stem ++ ".json").utf8ByteSize ≤ (stem ++ ".json.tmp").utf8ByteSize := by
  have hjson : ".json".utf8ByteSize = 5 := rfl
  have htemporary : ".json.tmp".utf8ByteSize = 9 := rfl
  rw [String.utf8ByteSize_append, String.utf8ByteSize_append]
  omega

end FileTree

/-! ## Files that are put -/

namespace Put

theorem isName_json (hstem : IsStem stem) : IsName (stem ++ ".json") :=
  hstem.append (by decide) (by decide) (by decide)

theorem isName_temporary (hstem : IsStem stem) : IsName (stem ++ ".json.tmp") :=
  hstem.append (by decide) (by decide) (by decide)

theorem json_place_ne (b : FilePlace) (stem : String) :
    b ++ [stem ++ ".json"] ≠ b ++ [stem ++ ".json.tmp"] := fun heq =>
  FilePath.json_ne_temporary stem stem (List.singleton_inj.1 (List.append_cancel_left heq))

/-- The temporary file of a file can be written: its path leads into a folder, its name is short
enough, and no folder stands there. -/
structure Ready (t : FileTree) (folder stem : String) (b : FilePlace) : Prop where
  opens : t.Opens folder b
  short : (stem ++ ".json.tmp").utf8ByteSize ≤ nameLimit
  free : t.at? (b ++ [stem ++ ".json.tmp"]) ≠ some .folder

/-- The tree with bytes in the temporary file. -/
def withTemporary (t : FileTree) (b : FilePlace) (stem : String) (bytes : List UInt8) : FileTree :=
  t.put (b ++ [stem ++ ".json.tmp"]) (.file bytes)

/-- The tree in which the file has been replaced. -/
def withFile (t : FileTree) (b : FilePlace) (stem : String) (bytes : List UInt8) : FileTree :=
  ((withTemporary t b stem bytes).erase (b ++ [stem ++ ".json.tmp"])).put (b ++ [stem ++ ".json"])
    (.file bytes)

theorem Ready.sets (_ : Ready t folder stem b) (bytes : List UInt8) :
    t.Sets (withTemporary t b stem bytes) (b ++ [stem ++ ".json.tmp"]) (.file bytes) :=
  FileTree.sets_put (by simp) _

theorem Ready.withTemporary (h : Ready t folder stem b) (bytes : List UInt8) :
    (Put.withTemporary t b stem bytes).Opens folder b :=
  h.opens.mono ((h.sets bytes).keeps fun hfolder => (h.free hfolder).elim)

theorem Ready.move (h : Ready t folder stem b) (hstem : IsStem stem) (bytes : List UInt8) :
    (Put.withTemporary t b stem bytes).move (join folder (stem ++ ".json.tmp"))
        (join folder (stem ++ ".json")) =
      if t.at? (b ++ [stem ++ ".json"]) = some .folder then .error .isFolder
      else .ok (withFile t b stem bytes) := by
  have hmove := (h.withTemporary bytes).move_join (isName_temporary hstem) h.short
    (isName_json hstem) (Nat.le_trans (FileTree.utf8ByteSize_json_le stem) h.short)
    (h.sets bytes).at_self
  rwa [(h.sets bytes).at_of_ne (json_place_ne b stem)] at hmove

/-- A file that is put is either replaced, on a device that does not fail, or the put fails; and
then the temporary file may have come to hold something, but nothing else has changed. -/
theorem file_cases (hstem : IsStem stem) (folder text : String) (t : FileTree) (device : Device) :
    (∃ e, (file (join folder (stem ++ ".json")) text t device).result = .error e ∧
      ((file (join folder (stem ++ ".json")) text t device).tree = t ∨
        ∃ b bytes, Ready t folder stem b ∧
          (file (join folder (stem ++ ".json")) text t device).tree =
            withTemporary t b stem bytes)) ∨
    ((device.writing = .done ∧ device.moving = none) ∧
      ∃ b, Ready t folder stem b ∧ t.at? (b ++ [stem ++ ".json"]) ≠ some .folder ∧
        file (join folder (stem ++ ".json")) text t device =
          ⟨.ok (), withFile t b stem text.toUTF8.toList⟩) := by
  rw [file, FilePath.withExtension_json folder hstem, FileTree.save]
  cases htarget : t.target (join folder (stem ++ ".json.tmp")) with
  | error e => exact .inl ⟨_, rfl, .inl rfl⟩
  | ok p =>
    obtain ⟨b, hopens, hlength, hat, rfl⟩ :=
      (FileTree.target_join (isName_temporary hstem)).1 htarget
    have hready : Ready t folder stem b := ⟨hopens, hlength, hat⟩
    obtain ⟨reading, writing, moving⟩ := device
    cases writing with
    | refused message => exact .inl ⟨_, rfl, .inl rfl⟩
    | torn message kept => exact .inl ⟨_, rfl, .inr ⟨b, _, hready, rfl⟩⟩
    | done =>
      have hmove := hready.move hstem text.toUTF8.toList
      rw [withTemporary] at hmove
      dsimp only
      cases moving with
      | some message => exact .inl ⟨_, rfl, .inr ⟨b, _, hready, rfl⟩⟩
      | none =>
        rw [Device.attempt, hmove]
        by_cases hfolder : t.at? (b ++ [stem ++ ".json"]) = some .folder
        · rw [if_pos hfolder]
          exact .inl ⟨_, rfl, .inr ⟨b, _, hready, rfl⟩⟩
        · rw [if_neg hfolder]
          exact .inr ⟨⟨rfl, rfl⟩, b, hready, hfolder, rfl⟩

/-- A file can be put on a device that does not fail where its path leads into a folder, its name is
short enough, and neither the file nor the temporary file is in the place of a folder. -/
theorem file_ok_iff (hstem : IsStem stem) (folder text : String) (t : FileTree) (device : Device) :
    (file (join folder (stem ++ ".json")) text t device).result = .ok () ↔
      (device.writing = .done ∧ device.moving = none) ∧
        ∃ b, Ready t folder stem b ∧ t.at? (b ++ [stem ++ ".json"]) ≠ some .folder := by
  constructor
  · intro hok
    rcases file_cases hstem folder text t device with ⟨e, herror, -⟩ | ⟨hdevice, b, h, hat, -⟩
    · rw [herror] at hok
      cases hok
    · exact ⟨hdevice, b, h, hat⟩
  · rintro ⟨⟨hwriting, hmoving⟩, b, h, hat⟩
    have hmove := h.move hstem text.toUTF8.toList
    rw [if_neg hat, withTemporary] at hmove
    rw [file, FilePath.withExtension_json folder hstem, FileTree.save, hwriting, hmoving,
      (FileTree.target_join (isName_temporary hstem)).2 ⟨b, h.opens, h.short, h.free, rfl⟩]
    dsimp only
    rw [Device.attempt, hmove]

/-- A file that is put holds the new text if the put succeeds, and what it held before if it
fails. -/
theorem contents_file (hstem : IsStem stem) (folder text : String) (t : FileTree)
    (device : Device) :
    (∃ e, (file (join folder (stem ++ ".json")) text t device).result = .error e ∧
      (file (join folder (stem ++ ".json")) text t device).tree.contents
        (join folder (stem ++ ".json")) = t.contents (join folder (stem ++ ".json"))) ∨
    (file (join folder (stem ++ ".json")) text t device).result = .ok () ∧
      (file (join folder (stem ++ ".json")) text t device).tree.contents
        (join folder (stem ++ ".json")) = .ok text.toUTF8.toList := by
  have hshort {b : FilePlace} (h : Ready t folder stem b) :=
    Nat.le_trans (FileTree.utf8ByteSize_json_le stem) h.short
  rcases file_cases hstem folder text t device with
    ⟨e, herror, htree | ⟨b, bytes, h, htree⟩⟩ | ⟨-, b, h, hat, hfile⟩
  · exact .inl ⟨e, herror, by rw [htree]⟩
  · refine .inl ⟨e, herror, ?_⟩
    rw [htree, (h.withTemporary bytes).contents_join (isName_json hstem),
      h.opens.contents_join (isName_json hstem),
      (h.sets bytes).at_of_ne (json_place_ne b stem)]
  · have hkept := h.opens.mono
      (FileTree.keeps_move (by simp) (by simp) h.free hat text.toUTF8.toList)
    rw [hfile]
    refine .inr ⟨rfl, ?_⟩
    dsimp only
    rw [withFile, withTemporary, hkept.contents_join (isName_json hstem),
      if_neg (Nat.not_lt.2 (hshort h)), FileTree.at?_put _ _ (by simp), if_pos rfl]

end Put

/-! ## A file in a folder -/

namespace FileTree

/-- A file in a folder is replaced by a put that succeeds, and by nothing else. -/
theorem HasFolder.put_file (h : t.HasFolder folder p) (hstem : IsStem stem)
    (htemporary : t.at? (p ++ [stem ++ ".json.tmp"]) = none)
    (hat : t.at? (p ++ [stem ++ ".json"]) ≠ some .folder) (text : String) :
    ((Put.file (join folder (stem ++ ".json")) text t).result = .ok () ↔
      (stem ++ ".json.tmp").utf8ByteSize ≤ nameLimit) ∧
    ((Put.file (join folder (stem ++ ".json")) text t).result = .ok () →
      t.Sets (Put.file (join folder (stem ++ ".json")) text t).tree (p ++ [stem ++ ".json"])
        (.text text)) := by
  refine ⟨?_, fun hok => ?_⟩
  · rw [Put.file_ok_iff hstem]
    constructor
    · rintro ⟨-, b, hready, -⟩
      exact hready.short
    · intro hlength
      exact ⟨⟨rfl, rfl⟩, p, ⟨h.opens, hlength, by rw [htemporary]; exact nofun⟩, hat⟩
  · rcases Put.file_cases hstem folder text t .sound with ⟨e, herror, -⟩ | ⟨-, b, hready, -, hfile⟩
    · rw [hok] at herror
      cases herror
    · obtain rfl := hready.opens.unique h.opens
      rw [hfile]
      exact sets_move (by simp) (by simp) htemporary

end FileTree
end KitchenFlow
