import KitchenFlow.Text.Blank
import KitchenFlow.Text.Split

/-!
# Cutting and trimming text

A text that is cut at a separator falls into pieces without the separator; where the separator
stands first is where the first piece ends, and where it stands last is where the last piece begins.
A run of characters ends before the first one that does not belong to it. Trimming a text that
begins and ends with characters that are not blank changes nothing.
-/

namespace KitchenFlow.Text

variable {c : Char} {l m : List Char}

/-! ## Pieces -/

/-- A list without the separator is its only piece. -/
theorem splitChars_of_not_mem (h : c ∉ l) : splitChars c l = [l] := by
  induction l with
  | nil => rfl
  | cons x l ih =>
    obtain ⟨hx, hl⟩ := not_or.1 (mt List.mem_cons.2 h)
    rw [splitChars, if_neg (Ne.symm hx), ih hl]

/-- The pieces of two texts with a separator between them are those of both. -/
theorem splitChars_append_cons (l m : List Char) :
    splitChars c (l ++ c :: m) = splitChars c l ++ splitChars c m := by
  induction l with
  | nil =>
    rw [List.nil_append, splitChars, splitChars, if_pos rfl]
    rfl
  | cons x l ih =>
    rw [List.cons_append, splitChars, splitChars, ih]
    split
    · rfl
    · rcases hl : splitChars c l with - | ⟨piece, rest⟩
      · exact (splitChars_ne_nil c l hl).elim
      · rfl

/-- What stands before the first separator is the first piece. -/
theorem splitChars_append (h : c ∉ l) (m : List Char) :
    splitChars c (l ++ c :: m) = l :: splitChars c m := by
  rw [splitChars_append_cons, splitChars_of_not_mem h, List.singleton_append]

/-- No piece holds the separator. -/
theorem not_mem_of_mem_splitChars {piece : List Char} (h : piece ∈ splitChars c l) :
    c ∉ piece := by
  induction l generalizing piece with
  | nil =>
    obtain rfl := List.mem_singleton.1 h
    exact List.not_mem_nil
  | cons x l ih =>
    rw [splitChars] at h
    split at h
    · rcases List.mem_cons.1 h with rfl | h
      · exact List.not_mem_nil
      · exact ih h
    · next hx =>
      rcases hrest : splitChars c l with - | ⟨first, rest⟩
      · exact (splitChars_ne_nil c l hrest).elim
      · rw [hrest] at h ih
        rcases List.mem_cons.1 h with rfl | h
        · have hfirst := ih List.mem_cons_self
          simp [hfirst, Ne.symm hx]
        · exact ih (List.mem_cons_of_mem _ h)

theorem splitAt_of_not_mem {s : String} (h : c ∉ s.toList) : splitAt c s = [s] := by
  rw [splitAt, splitChars_of_not_mem h, List.map_singleton, String.ofList_toList]

theorem splitAt_append (s separator : String) {t : String} (hc : separator.toList = [c])
    (h : c ∉ s.toList) : splitAt c (s ++ separator ++ t) = s :: splitAt c t := by
  have hlist : (s ++ separator ++ t).toList = s.toList ++ c :: t.toList := by
    rw [String.toList_append, String.toList_append, hc, List.append_assoc]
    rfl
  rw [splitAt, hlist, splitChars_append h, List.map_cons, String.ofList_toList]
  rfl

/-- A text is cut behind what stands before the last separator. -/
theorem cutLast?_append (s separator : String) {t : String} (hc : separator.toList = [c])
    (h : c ∉ t.toList) : cutLast? c (s ++ separator ++ t) = some (s, t) := by
  have hlist : (s ++ separator ++ t).toList.reverse =
      t.toList.reverse ++ c :: s.toList.reverse := by
    rw [String.toList_append, String.toList_append, hc]
    simp
  have ht : ∀ x ∈ t.toList.reverse, decide (x ≠ c) = true := by
    intro x hx
    rw [decide_eq_true_eq]
    rintro rfl
    exact h (List.mem_reverse.1 hx)
  rw [cutLast?, hlist, List.dropWhile_append_of_pos ht, List.takeWhile_append_of_pos ht]
  simp

theorem cutLast?_of_not_mem {s : String} (h : c ∉ s.toList) : cutLast? c s = none := by
  have hall : ∀ x ∈ s.toList.reverse, decide (x ≠ c) = true := by
    intro x hx
    rw [decide_eq_true_eq]
    rintro rfl
    exact h (List.mem_reverse.1 hx)
  rw [cutLast?, ← List.append_nil s.toList.reverse, List.dropWhile_append_of_pos hall]
  rfl

/-- What a text is cut into makes it up. -/
theorem append_of_cutLast? {s a b : String} (separator : String) (hc : separator.toList = [c])
    (h : cutLast? c s = some (a, b)) : a ++ separator ++ b = s := by
  have hcut := List.takeWhile_append_dropWhile (p := fun x => decide (x ≠ c))
    (l := s.toList.reverse)
  rw [cutLast?] at h
  split at h
  · cases h
  · next x before hdrop =>
    obtain ⟨rfl, rfl⟩ := Prod.mk.inj (Option.some.inj h)
    have hx : x = c := by
      have hhead := List.head?_dropWhile_not (fun x => decide (x ≠ c)) s.toList.reverse
      rw [hdrop] at hhead
      simpa using hhead
    rw [hdrop, hx] at hcut
    rw [← String.toList_inj, ← List.reverse_inj]
    refine Eq.trans ?_ hcut
    simp [hc]

/-! ## Runs -/

variable {p : Char → Bool}

/-- Of a run of characters before something else, the run is what is taken. -/
theorem takeWhile_append (hl : ∀ c ∈ l, p c = true) (hm : ∀ c ∈ m.head?, p c = false) :
    (l ++ m).takeWhile p = l := by
  rw [List.takeWhile_append_of_pos hl]
  cases m with
  | nil => simp
  | cons c m => simp [hm c rfl]

theorem dropWhile_append (hl : ∀ c ∈ l, p c = true) (hm : ∀ c ∈ m.head?, p c = false) :
    (l ++ m).dropWhile p = m := by
  rw [List.dropWhile_append_of_pos hl]
  cases m with
  | nil => rfl
  | cons c m => exact dropWhile_eq_self_of_head (hm c rfl)

/-! ## Blanks -/

/-- Dropping blanks at the end goes no further than to the last character that is none. -/
theorem trimEnd_append (l m : List Char) (hc : isBlankChar c = false) :
    trimEnd (l ++ c :: m) = l ++ c :: trimEnd m := by
  have hreverse : (l ++ c :: m).reverse = m.reverse ++ c :: l.reverse := by simp
  unfold trimEnd
  rw [hreverse, List.dropWhile_append]
  split
  · next hempty =>
    rw [List.isEmpty_iff.1 hempty, dropWhile_eq_self_of_head hc]
    simp
  · simp

theorem trimStart_cons (l : List Char) (hc : isBlankChar c = false) :
    trimStart (c :: l) = c :: l := dropWhile_eq_self_of_head hc

theorem trimEnd_eq_nil_iff : trimEnd l = [] ↔ l.all isBlankChar = true := by
  rw [trimEnd, List.reverse_eq_nil_iff, dropWhile_eq_nil_iff_all, List.all_reverse]

/-- Nothing is left of a text exactly when it is blank. -/
theorem isEmpty_trim (s : String) : (trim s).isEmpty = isBlank s := by
  have hchars : trimChars s.toList = [] ↔ s.toList.all isBlankChar = true := by
    rw [trimChars, trimEnd_eq_nil_iff, ← dropWhile_eq_nil_iff_all s.toList]
    constructor
    · intro hall
      rcases hstart : s.toList.dropWhile isBlankChar with - | ⟨c, rest⟩
      · rfl
      · have hc := head_of_dropWhile hstart
        rw [trimStart, hstart, List.all_cons, hc] at hall
        cases hall
    · intro hnil
      rw [trimStart, hnil]
      rfl
  rw [Bool.eq_iff_iff, String.isEmpty_iff, isBlank, ← hchars, trim, ← String.toList_inj,
    String.toList_ofList]
  rfl

theorem trimEnd_isPrefix (l : List Char) : trimEnd l <+: l := by
  rw [trimEnd, ← List.reverse_suffix, List.reverse_reverse]
  exact List.dropWhile_suffix _

theorem trimEnd_trimEnd (l : List Char) : trimEnd (trimEnd l) = trimEnd l := by
  rw [trimEnd, trimEnd, List.reverse_reverse, dropWhile_dropWhile]

/-- Dropping blanks at the end leaves no blank at the front. -/
theorem trimStart_trimChars (l : List Char) : trimStart (trimChars l) = trimChars l := by
  rcases h : trimStart l with - | ⟨c, rest⟩
  · rw [trimChars, h]
    rfl
  · have hc := head_of_dropWhile h
    rw [trimChars, h, ← List.nil_append (c :: rest), trimEnd_append [] rest hc, List.nil_append,
      trimStart_cons _ hc]

/-- Nothing more can be trimmed of a trimmed text. -/
theorem trim_trim (s : String) : trim (trim s) = trim s := by
  have hchars : trimChars (trimChars s.toList) = trimChars s.toList := by
    rw [trimChars, trimStart_trimChars, trimChars, trimEnd_trimEnd]
  rw [trim, trim, String.toList_ofList, hchars]

theorem mem_of_mem_trim {s : String} (h : c ∈ (trim s).toList) : c ∈ s.toList := by
  rw [trim, String.toList_ofList] at h
  exact (List.dropWhile_suffix _).subset ((trimEnd_isPrefix _).subset h)

end KitchenFlow.Text
