import KitchenFlow.Payload.Template
import Mathlib.Data.List.Infix

/-!
# The pieces of a template

A template is cut into pieces without a look at any payload, and there is but one way to do so: a
hole begins at the first pair of opening braces and ends at the first pair of closing braces behind
it. Filling goes over a template once, from left to right. It copies what stands before a hole,
fills the hole, and goes on behind it, so what is filled in is not read again:

    Template.Tidy            pieces that a template can have
    Template.pieces_eq_iff   pieces cs = ps ↔ Tidy ps ∧ ps.flatMap Piece.source = cs
    Payload.scan             the one pass over a template
    Payload.render_once      what a template is filled with, by its pieces and in one pass
-/

namespace KitchenFlow

namespace Template

/-- Two opening braces. -/
def opening : List Char := ['\x7b', '\x7b']

/-- Two closing braces. -/
def closing : List Char := ['\x7d', '\x7d']

/-- Somewhere in a text stand two opening braces, and somewhere behind them two closing ones. -/
def HasPlaceholder (text : List Char) : Prop :=
  ∃ before path after, text = before ++ opening ++ path ++ closing ++ after

/-- Pieces that a template can have: literals and holes in turn, with a literal at either end. A
literal before a hole ends at the first pair of opening braces, even if more of them follow, and the
path of a hole at the first pair of closing ones. -/
inductive Tidy : List Piece → Prop where
  | last {text} : ¬ HasPlaceholder text → Tidy [.literal text]
  | hole {text path ps} : ¬ opening <:+: text ++ ['\x7b'] → ¬ closing <:+: path ++ ['\x7d'] →
    Tidy ps → Tidy (.literal text :: .hole path :: ps)

variable {c : Char} {l before after tail : List Char} {ps : List Piece}

/-! ## The first pair -/

/-- A pair in a list stands at its beginning or behind its first element. -/
theorem pair_infix_cons {x y : Char} {rest : List Char} :
    [c, c] <:+: x :: y :: rest ↔ (x = c ∧ y = c) ∨ [c, c] <:+: y :: rest := by
  rw [List.infix_cons_iff, List.cons_prefix_cons, List.cons_prefix_cons]
  simp [eq_comm]

theorem cutPair_eq_none_iff : cutPair c l = none ↔ ¬ [c, c] <:+: l := by
  fun_induction cutPair c l with
  | case1 x y rest hpair => simp [pair_infix_cons, hpair]
  | case2 x y rest hpair ih =>
    rw [Option.map_eq_none_iff, ih, pair_infix_cons, not_or]
    exact ⟨fun h => ⟨hpair, h⟩, fun h => h.2⟩
  | case3 l hshort =>
    refine ⟨fun _ hinfix => ?_, fun _ => rfl⟩
    have hlength := hinfix.length_le
    rcases l with - | ⟨x, - | ⟨y, rest⟩⟩
    · simp at hlength
    · simp at hlength
    · exact hshort x y rest rfl

/-- Before a pair, something begins a list that ends a place earlier. -/
theorem exists_cons (before : List Char) (c : Char) :
    ∃ y more, before ++ [c] = y :: more ∧
      ∀ after, before ++ c :: c :: after = y :: (more ++ c :: after) := by
  obtain ⟨y, more, hmore⟩ := List.exists_cons_of_ne_nil (List.concat_ne_nil c before)
  refine ⟨y, more, hmore, fun after => ?_⟩
  rw [← List.cons_append, ← hmore, List.append_assoc]
  rfl

/-- A list is cut at the first pair, and not at one that begins a place later. -/
theorem not_infix_of_cutPair (h : cutPair c l = some (before, after)) :
    ¬ [c, c] <:+: before ++ [c] := by
  fun_induction cutPair c l generalizing before after with
  | case1 x y rest =>
    cases h
    exact fun hinfix => absurd hinfix.length_le (by simp)
  | case2 x y rest hpair ih =>
    simp only [Option.map_eq_some_iff, Prod.exists, Prod.mk.injEq] at h
    obtain ⟨first, after, hrest, rfl, rfl⟩ := h
    obtain ⟨z, more, hmore, hlist⟩ := exists_cons first c
    obtain ⟨rfl, -⟩ := List.cons.inj ((eq_of_cutPair hrest).trans (hlist after))
    rw [List.cons_append, hmore, pair_infix_cons, ← hmore]
    exact not_or.2 ⟨hpair, ih hrest⟩
  | case3 => cases h

/-- Where a pair stands, and none before it, a list is cut. -/
theorem cutPair_append (h : ¬ [c, c] <:+: before ++ [c]) (after : List Char) :
    cutPair c (before ++ c :: c :: after) = some (before, after) := by
  induction before with
  | nil => simp [cutPair]
  | cons x before ih =>
    obtain ⟨y, more, hmore, hlist⟩ := exists_cons before c
    rw [List.cons_append, hmore, pair_infix_cons, ← hmore, not_or] at h
    rw [List.cons_append, hlist, cutPair, if_neg h.1, ← hlist, ih h.2]
    rfl

/-- Behind the first pair stands everything that stands behind any pair. -/
theorem suffix_of_cutPair (h : cutPair c (before ++ c :: c :: tail) = some (l, after)) :
    tail <:+ after := by
  induction before generalizing l with
  | nil =>
    simp only [List.nil_append, cutPair, and_self, if_true, Option.some.injEq, Prod.mk.injEq] at h
    exact h.2 ▸ List.suffix_refl tail
  | cons x before ih =>
    obtain ⟨y, more, -, hlist⟩ := exists_cons before c
    rw [List.cons_append, hlist, cutPair] at h
    split at h
    · cases h
      exact ⟨more ++ [c], by simp⟩
    · rw [← hlist] at h
      simp only [Option.map_eq_some_iff, Prod.exists, Prod.mk.injEq] at h
      obtain ⟨first, after, hrest, -, rfl⟩ := h
      exact ih hrest

/-- A placeholder is what a list can be cut at twice. -/
theorem hasPlaceholder_iff :
    HasPlaceholder l ↔
      ∃ before inside, cutPair '\x7b' l = some (before, inside) ∧ closing <:+: inside := by
  constructor
  · rintro ⟨before, path, after, rfl⟩
    have hpair : opening <:+: before ++ opening ++ path ++ closing ++ after :=
      ⟨before, path ++ closing ++ after, by simp⟩
    obtain ⟨⟨first, inside⟩, hcut⟩ :=
      Option.ne_none_iff_exists'.1 fun hnone => cutPair_eq_none_iff.1 hnone hpair
    refine ⟨first, inside, hcut, ?_⟩
    have hsuffix : path ++ closing ++ after <:+ inside := by
      have hlist : before ++ opening ++ path ++ closing ++ after =
          before ++ '\x7b' :: '\x7b' :: (path ++ closing ++ after) := by
        simp [opening]
      rw [hlist] at hcut
      exact suffix_of_cutPair hcut
    exact List.IsInfix.trans ⟨path, after, rfl⟩ hsuffix.isInfix
  · rintro ⟨before, inside, hcut, path, after, rfl⟩
    exact ⟨before, path, after, by rw [eq_of_cutPair hcut]; simp [opening]⟩

theorem not_hasPlaceholder_of_unopened (hcut : cutPair '\x7b' l = none) : ¬ HasPlaceholder l := by
  intro h
  obtain ⟨_, _, hsome, -⟩ := hasPlaceholder_iff.1 h
  rw [hcut] at hsome
  cases hsome

theorem not_hasPlaceholder_of_unclosed {inside : List Char}
    (hcut : cutPair '\x7b' l = some (before, inside)) (hpath : cutPair '\x7d' inside = none) :
    ¬ HasPlaceholder l := by
  intro h
  obtain ⟨_, _, hsome, hclosing⟩ := hasPlaceholder_iff.1 h
  rw [hcut] at hsome
  cases hsome
  exact cutPair_eq_none_iff.1 hpath hclosing

/-! ## Pieces -/

theorem pieces_of_not_hasPlaceholder (h : ¬ HasPlaceholder l) : pieces l = [.literal l] := by
  rw [pieces]
  split
  · rfl
  · next before inside hcut =>
    split
    · rfl
    · next path rest hpath =>
      have hclosing : closing <:+: inside :=
        ⟨path, rest, by rw [eq_of_cutPair hpath]; simp [closing]⟩
      exact (h (hasPlaceholder_iff.2 ⟨before, inside, hcut, hclosing⟩)).elim

theorem pieces_of_cutPair {path inside rest : List Char}
    (hcut : cutPair '\x7b' l = some (before, inside))
    (hpath : cutPair '\x7d' inside = some (path, rest)) :
    pieces l = .literal before :: .hole path :: pieces rest := by
  rw [pieces]
  split
  · next hnone =>
    rw [hcut] at hnone
    cases hnone
  · next heq =>
    rw [hcut] at heq
    cases heq
    split
    · next hnone =>
      rw [hpath] at hnone
      cases hnone
    · next heq =>
      rw [hpath] at heq
      cases heq
      rfl

/-- A template is cut into tidy pieces. -/
theorem tidy_pieces (l : List Char) : Tidy (pieces l) := by
  fun_induction pieces l with
  | case1 l hcut => exact .last (not_hasPlaceholder_of_unopened hcut)
  | case2 l before inside hcut hpath => exact .last (not_hasPlaceholder_of_unclosed hcut hpath)
  | case3 l before inside hcut path rest hpath ih =>
    exact .hole (not_infix_of_cutPair hcut) (not_infix_of_cutPair hpath) ih

/-- Tidy pieces are what the template that they make up is cut into. -/
theorem pieces_flatMap_source (h : Tidy ps) : pieces (ps.flatMap Piece.source) = ps := by
  induction h with
  | @last text htext =>
    rw [List.flatMap_singleton]
    exact pieces_of_not_hasPlaceholder htext
  | @hole text path ps htext hpath _ ih =>
    have hlist : (Piece.literal text :: .hole path :: ps).flatMap Piece.source =
        text ++ '\x7b' :: '\x7b' :: (path ++ '\x7d' :: '\x7d' :: ps.flatMap Piece.source) := by
      simp [Piece.source]
    rw [hlist, pieces_of_cutPair (cutPair_append htext _) (cutPair_append hpath _), ih]

/-- There is one way to make up a template of tidy pieces, and this is how it is cut. -/
theorem pieces_eq_iff : pieces l = ps ↔ Tidy ps ∧ ps.flatMap Piece.source = l := by
  constructor
  · rintro rfl
    exact ⟨tidy_pieces l, flatMap_source_pieces l⟩
  · rintro ⟨htidy, rfl⟩
    exact pieces_flatMap_source htidy

-- of braces in a row the first two open, and what is never closed is text
example : pieces "a\x7b\x7b\x7bb\x7d\x7d\x7d\x7b\x7bc".toList =
    [.literal ['a'], .hole ['\x7b', 'b'], .literal ['\x7d', '\x7b', '\x7b', 'c']] := by
  decide +kernel

/-- The path of a hole does not hold a pair of closing braces. -/
theorem Tidy.not_infix_of_hole {path : List Char} (h : Tidy ps) (hmem : .hole path ∈ ps) :
    ¬ closing <:+: path := by
  induction h with
  | last => simp at hmem
  | hole _ hpath _ ih =>
    simp only [List.mem_cons, reduceCtorEq, Piece.hole.injEq, false_or] at hmem
    rcases hmem with rfl | hmem
    · exact fun hinfix => hpath (List.infix_append_of_infix_left hinfix)
    · exact ih hmem

/-- No literal holds a placeholder, and one that is not the last does not hold two opening braces
either. -/
theorem Tidy.literal {text : List Char} {front back : List Piece}
    (h : Tidy (front ++ .literal text :: back)) :
    ¬ HasPlaceholder text ∧ (back ≠ [] → ¬ opening <:+: text) := by
  generalize hps : front ++ .literal text :: back = ps at h
  induction h generalizing front with
  | last hlast =>
    match front, hps with
    | [], hps =>
      cases hps
      exact ⟨hlast, fun hback => (hback rfl).elim⟩
    | _ :: front, hps =>
      exact (List.append_ne_nil_of_right_ne_nil front (List.cons_ne_nil _ _)
        (List.cons.inj hps).2).elim
  | @hole first path ps hfirst hpath _ ih =>
    match front, hps with
    | [], hps =>
      cases hps
      have hopening : ¬ opening <:+: text := fun hinfix =>
        hfirst (List.infix_append_of_infix_left hinfix)
      refine ⟨?_, fun _ => hopening⟩
      rintro ⟨before, path, after, rfl⟩
      exact hopening ⟨before, path ++ closing ++ after, by simp⟩
    | [_], hps => cases hps
    | _ :: _ :: front, hps =>
      exact ih (List.cons.inj (List.cons.inj hps).2).2

end Template

/-! ## One pass -/

namespace Payload

open Template

/-- Goes over a template from left to right. What has been written is added to and not read again:
the text before the next hole, then what the hole is filled with, and so on behind it. Two opening
braces that are never closed are text. -/
def scan (p : Payload) (written rest : List Char) : List Char :=
  match _h : cutPair '\x7b' rest with
  | none => written ++ rest
  | some (before, inside) =>
    match _k : cutPair '\x7d' inside with
    | none => written ++ before ++ opening ++ inside
    | some (path, behind) =>
      scan p (written ++ before ++ ((p.lookup (String.ofList path)).elim [] (·.display.toList)))
        behind
termination_by rest.length
decreasing_by
  have h1 := length_of_cutPair _h
  have h2 := length_of_cutPair _k
  omega

theorem toList_fill_hole (p : Payload) (path : List Char) :
    (p.fill (.hole path)).toList =
      (p.lookup (String.ofList path)).elim [] (·.display.toList) := by
  rw [fill]
  cases p.lookup (String.ofList path) <;> rfl

/-- The pass writes what the pieces of the template are filled with. -/
theorem scan_eq (p : Payload) (written rest : List Char) :
    p.scan written rest = written ++ (pieces rest).flatMap fun piece => (p.fill piece).toList := by
  fun_induction scan p written rest with
  | case1 written rest hcut =>
    have hplain := not_hasPlaceholder_of_unopened hcut
    simp [pieces_of_not_hasPlaceholder hplain, fill]
  | case2 written rest before inside hcut hpath =>
    have hplain := not_hasPlaceholder_of_unclosed hcut hpath
    rw [pieces_of_not_hasPlaceholder hplain, eq_of_cutPair hcut]
    simp [fill, opening]
  | case3 written rest before inside hcut path behind hpath ih =>
    rw [ih, pieces_of_cutPair hcut hpath, List.flatMap_cons, List.flatMap_cons, toList_fill_hole]
    simp [fill]

theorem toList_render (p : Payload) (template : String) :
    (p.render template).toList =
      (pieces template.toList).flatMap fun piece => (p.fill piece).toList := by
  rw [render, String.toList_join, List.flatMap_map]

/-- A template is cut into pieces that make it up, whatever the payload. No path of a hole holds two
closing braces, no literal holds a placeholder, and only the last one may hold two opening braces;
there are no other tidy pieces that make up the template. A payload fills it with its literals as
they stand and the value of each hole, or nothing, in a single pass that does not read again what
has been written. -/
theorem render_once (template : String) :
    (pieces template.toList).flatMap Piece.source = template.toList ∧
    (∀ path, .hole path ∈ pieces template.toList → ¬ closing <:+: path) ∧
    (∀ front text back, pieces template.toList = front ++ .literal text :: back →
      ¬ HasPlaceholder text ∧ (back ≠ [] → ¬ opening <:+: text)) ∧
    (∀ ps, Tidy ps → ps.flatMap Piece.source = template.toList → ps = pieces template.toList) ∧
    ∀ p : Payload,
      (p.render template).toList = (pieces template.toList).flatMap (fun
        | .literal text => text
        | .hole path => (p.lookup (String.ofList path)).elim [] (·.display.toList)) ∧
      ∀ written, p.scan written template.toList = written ++ (p.render template).toList := by
  have htidy := tidy_pieces template.toList
  refine ⟨flatMap_source_pieces _, fun path hmem => htidy.not_infix_of_hole hmem, ?_, ?_, ?_⟩
  · intro front text back heq
    rw [heq] at htidy
    exact htidy.literal
  · intro ps hps hsource
    exact (pieces_eq_iff.2 ⟨hps, hsource⟩).symm
  · intro p
    constructor
    · rw [toList_render]
      refine List.flatMap_congr fun piece _ => ?_
      cases piece with
      | literal text => exact String.toList_ofList
      | hole path => exact toList_fill_hole p path
    · intro written
      rw [scan_eq, toList_render]

end Payload
end KitchenFlow
