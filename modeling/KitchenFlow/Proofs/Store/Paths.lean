import KitchenFlow.Proofs.Text
import KitchenFlow.Store.FileTree

/-!
# Paths with a name at their end

A name without a slash leads one step further than the folder that it is joined to, if it is not one
of the names with a meaning of their own. Cutting its extension off and putting another one in its
place changes the name only.

    FilePath.IsName         a name that leads one step down
    FilePath.exists_join    a path to a folder, a slash and a name
    FilePath.steps_join     the steps of such a path
-/

namespace KitchenFlow.FilePath

variable {folder name stem : String}

/-- What can stand before the extension of a file. -/
structure IsStem (stem : String) : Prop where
  ne_empty : stem ≠ ""
  no_slash : '/' ∉ stem.toList
  no_zero : '\x00' ∉ stem.toList

/-- A name that leads one step down. -/
structure IsName (name : String) : Prop extends IsStem name where
  ne_dot : name ≠ "."
  ne_dots : name ≠ ".."

instance (stem : String) : Decidable (IsStem stem) :=
  decidable_of_iff (stem ≠ "" ∧ '/' ∉ stem.toList ∧ '\x00' ∉ stem.toList)
    ⟨fun h => ⟨h.1, h.2.1, h.2.2⟩, fun h => ⟨h.ne_empty, h.no_slash, h.no_zero⟩⟩

instance (name : String) : Decidable (IsName name) :=
  decidable_of_iff (IsStem name ∧ name ≠ "." ∧ name ≠ "..")
    ⟨fun h => ⟨h.1, h.2.1, h.2.2⟩, fun h => ⟨h.toIsStem, h.ne_dot, h.ne_dots⟩⟩

/-- With an extension, a stem is the name of a file. -/
theorem IsStem.append {extension : String} (h : IsStem stem) (hlength : 2 ≤ extension.length)
    (hslash : '/' ∉ extension.toList) (hzero : '\x00' ∉ extension.toList) :
    IsName (stem ++ extension) := by
  have hlong : 2 < (stem ++ extension).length := by
    have hpos := Nat.pos_of_ne_zero (mt String.length_eq_zero_iff.1 h.ne_empty)
    rw [String.length_append]
    omega
  have hne (s : String) (hs : s.length ≤ 2) : stem ++ extension ≠ s := by
    rintro rfl
    omega
  refine ⟨⟨hne _ (by decide), ?_, ?_⟩, hne _ (by decide), hne _ (by decide)⟩
  · rw [String.toList_append, List.mem_append, not_or]
    exact ⟨h.no_slash, hslash⟩
  · rw [String.toList_append, List.mem_append, not_or]
    exact ⟨h.no_zero, hzero⟩

theorem steps_slash (s t : String) : steps (s ++ "/" ++ t) = steps s ++ steps t := by
  have hslash : "/".toList = ['/'] := rfl
  have hlist : (s ++ "/" ++ t).toList = s.toList ++ '/' :: t.toList := by
    rw [String.toList_append, String.toList_append, hslash, List.append_assoc]
    rfl
  rw [steps, Text.splitAt, hlist, Text.splitChars_append_cons, List.map_append, List.filter_append]
  rfl

theorem IsName.steps (h : IsName name) : steps name = [name] := by
  rw [FilePath.steps, Text.splitAt_of_not_mem h.no_slash]
  simp [h.ne_empty]

/-! ## Slashes at the ends -/

theorem startsWith_slash {s : String} : s.startsWith "/" = true ↔ s.toList.head? = some '/' := by
  have hslash : "/".toList = ['/'] := rfl
  rw [String.startsWith_string_iff, hslash]
  cases s.toList with
  | nil => simp
  | cons c l => simp [List.cons_prefix_cons, eq_comm]

theorem endsWith_slash {s : String} : s.endsWith "/" = true ↔ ∃ t, s = t ++ "/" := by
  have hslash : "/".toList = ['/'] := rfl
  show s.toSlice.endsWith "/" = true ↔ _
  rw [String.Slice.endsWith_string_iff, String.copy_toSlice, hslash]
  constructor
  · rintro ⟨l, hl⟩
    refine ⟨String.ofList l, String.toList_inj.1 ?_⟩
    rw [String.toList_append, String.toList_ofList, hslash, hl]
  · rintro ⟨t, rfl⟩
    exact ⟨t.toList, by rw [String.toList_append, hslash]⟩

theorem not_startsWith_slash (h : '/' ∉ name.toList) : name.startsWith "/" = false := by
  rw [← Bool.not_eq_true, startsWith_slash]
  exact fun hhead => h (List.mem_of_mem_head? hhead)

theorem not_endsWith_slash (hne : name ≠ "") (h : '/' ∉ name.toList) (s : String) :
    (s ++ name).endsWith "/" = false := by
  rw [← Bool.not_eq_true, endsWith_slash]
  rintro ⟨t, ht⟩
  have hlast := congrArg (fun s => s.toList.getLast?) ht
  simp only [String.toList_append] at hlast
  have hname : name.toList ≠ [] := by simpa using hne
  obtain ⟨l, c, hl⟩ := List.eq_nil_or_concat name.toList |>.resolve_left hname
  have hslash : "/".toList = ['/'] := rfl
  rw [hl, hslash, List.concat_eq_append, ← List.append_assoc, List.getLast?_concat,
    List.getLast?_concat] at hlast
  cases hlast
  exact h (by simp [hl])

/-! ## Joined paths -/

/-- Joined paths to what is in one folder differ in their last name only. -/
theorem exists_join (hfolder : folder ≠ "") :
    ∃ stem, (folder = stem ∨ folder = stem ++ "/") ∧
      ∀ name, '/' ∉ name.toList → join folder name = stem ++ "/" ++ name := by
  cases hslash : folder.endsWith "/" with
  | true =>
    obtain ⟨stem, rfl⟩ := endsWith_slash.1 hslash
    refine ⟨stem, .inr rfl, fun name hname => ?_⟩
    rw [join, not_startsWith_slash hname, hslash, Bool.or_true]
    rfl
  | false =>
    refine ⟨folder, .inl rfl, fun name hname => ?_⟩
    rw [join, not_startsWith_slash hname, hslash, Bool.or_false, beq_false_of_ne hfolder]
    rfl

theorem join_empty (hname : '/' ∉ name.toList) : join "" name = name := by
  rw [join, not_startsWith_slash hname]
  exact String.empty_append

/-- A joined path ends in the name. -/
theorem exists_prior (folder : String) (hname : '/' ∉ name.toList) :
    ∃ prior, join folder name = prior ++ name := by
  by_cases hfolder : folder = ""
  · exact ⟨"", by rw [hfolder, join_empty hname, String.empty_append]⟩
  · obtain ⟨stem, -, hjoin⟩ := exists_join hfolder
    exact ⟨stem ++ "/", hjoin name hname⟩

theorem endsWith_join (folder : String) (h : IsName name) :
    (join folder name).endsWith "/" = false := by
  obtain ⟨prior, hprior⟩ := exists_prior folder h.no_slash
  rw [hprior]
  exact not_endsWith_slash h.ne_empty h.no_slash prior

theorem join_ne_empty (folder : String) (h : IsName name) : join folder name ≠ "" := by
  obtain ⟨prior, hprior⟩ := exists_prior folder h.no_slash
  rw [hprior]
  intro hempty
  have hlength := congrArg String.length hempty
  rw [String.length_append] at hlength
  exact h.ne_empty (String.length_eq_zero_iff.1 (Nat.eq_zero_of_add_eq_zero_left hlength))

/-- A joined path leads where the folder's path leads, and one step further. -/
theorem steps_join (folder : String) (h : IsName name) :
    steps (join folder name) = steps folder ++ [name] := by
  have hempty : steps "" = [] := by decide
  by_cases hfolder : folder = ""
  · rw [hfolder, join_empty h.no_slash, h.steps, hempty, List.nil_append]
  · obtain ⟨stem, hstem, hjoin⟩ := exists_join hfolder
    rw [hjoin name h.no_slash, steps_slash, h.steps]
    rcases hstem with rfl | rfl
    · rfl
    · have hslash := steps_slash stem ""
      rw [String.append_empty, hempty, List.append_nil] at hslash
      rw [hslash]

theorem startsWith_join (folder : String) (hname : '/' ∉ name.toList) :
    (join folder name).startsWith "/" = folder.startsWith "/" := by
  by_cases hfolder : folder = ""
  · rw [hfolder, join_empty hname, not_startsWith_slash hname,
      not_startsWith_slash List.not_mem_nil]
  obtain ⟨stem, hstem, hjoin⟩ := exists_join hfolder
  have hslash : "/".toList = ['/'] := rfl
  rw [hjoin name hname, Bool.eq_iff_iff, startsWith_slash, startsWith_slash, String.toList_append,
    String.toList_append, hslash]
  rcases hstem with rfl | rfl
  · have hne : folder.toList ≠ [] := by simpa using hfolder
    obtain ⟨c, l, hl⟩ := List.exists_cons_of_ne_nil hne
    rw [hl]
    rfl
  · rw [String.toList_append, hslash]
    cases stem.toList <;> rfl

/-- A joined path has a zero exactly if the path of the folder has one. -/
theorem zero_mem_join (folder : String) (h : IsName name) :
    '\x00' ∈ (join folder name).toList ↔ '\x00' ∈ folder.toList := by
  by_cases hfolder : folder = ""
  · rw [hfolder, join_empty h.no_slash]
    exact iff_of_false h.no_zero List.not_mem_nil
  · obtain ⟨prior, hprior, hjoin⟩ := exists_join hfolder
    rw [hjoin name h.no_slash, String.toList_append, String.toList_append]
    rcases hprior with rfl | rfl
    · simp [h.no_zero]
    · simp [String.toList_append, h.no_zero]

theorem contains_zero_join (hfolder : '\x00' ∉ folder.toList) (h : IsName name) :
    (join folder name).toList.contains '\x00' = false := by
  rw [← Bool.not_eq_true, List.contains_iff_mem, zero_mem_join folder h]
  exact hfolder

/-! ## Extensions -/

theorem cutExtension_append {extension : String} (hstem : stem ≠ "")
    (h : '.' ∉ extension.toList) :
    cutExtension (stem ++ "." ++ extension) = (stem, some extension) := by
  rw [cutExtension, Text.cutLast?_append (c := '.') stem "." rfl h]
  simp [hstem]

/-- The path of the temporary file of a file. -/
theorem withExtension_json (folder : String) (hstem : IsStem stem) :
    withExtension (join folder (stem ++ ".json")) "json.tmp" =
      join folder (stem ++ ".json.tmp") := by
  have hjson : stem ++ ".json" = stem ++ "." ++ "json" := by
    rw [String.append_assoc]
    rfl
  have htemporary : stem ++ ".json.tmp" = stem ++ "." ++ "json.tmp" := by
    rw [String.append_assoc]
    rfl
  have hname : '/' ∉ (stem ++ "." ++ "json").toList := by
    simp [String.toList_append, hstem.no_slash]
  have hother : '/' ∉ (stem ++ "." ++ "json.tmp").toList := by
    simp [String.toList_append, hstem.no_slash]
  rw [hjson, htemporary, withExtension]
  by_cases hfolder : folder = ""
  · rw [hfolder, join_empty hname, join_empty hother, Text.cutLast?_of_not_mem hname]
    dsimp only
    rw [cutExtension_append hstem.ne_empty (by decide)]
  · obtain ⟨prior, -, hjoin⟩ := exists_join hfolder
    rw [hjoin _ hname, hjoin _ hother, Text.cutLast?_append (c := '/') prior "/" rfl hname]
    dsimp only
    rw [cutExtension_append hstem.ne_empty (by decide)]
    simp only [String.append_assoc]

/-- The temporary file of one file has the name of no other file. -/
theorem json_ne_temporary (a c : String) : a ++ ".json" ≠ c ++ ".json.tmp" := by
  intro h
  have hlast := congrArg (fun s => s.toList.getLast?) h
  simp at hlast

end KitchenFlow.FilePath
