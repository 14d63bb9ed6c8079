import KitchenFlow.Payload.Lookup

/-!
# Templates

A template is text with holes `{{path}}`. It is cut into pieces before any payload is at hand: a
hole begins at the first pair of opening braces and ends at the first pair of closing braces after
it, and an opening pair that is never closed is plain text. Filling a template puts the values of a
payload into its holes; what is filled in is not looked at again.

    render p t = the pieces of t, literals unchanged, each hole replaced by what its path finds
-/

namespace KitchenFlow

namespace Template

/-- A piece of a template. -/
inductive Piece where
  | literal (text : List Char)
  | hole (path : List Char)
deriving DecidableEq, Repr

/-- What stands before and after the first place where `c` stands twice in a row. -/
def cutPair (c : Char) : List Char → Option (List Char × List Char)
  | x :: y :: rest =>
    if x = c ∧ y = c then some ([], rest)
    else (cutPair c (y :: rest)).map fun (before, after) => (x :: before, after)
  | _ => none

/-- A cut loses the pair and nothing else. -/
theorem eq_of_cutPair {c : Char} {l before after : List Char}
    (h : cutPair c l = some (before, after)) : l = before ++ c :: c :: after := by
  fun_induction cutPair c l generalizing before after with
  | case1 x y rest hc =>
    obtain ⟨rfl, rfl⟩ := hc
    cases h
    rfl
  | case2 x y rest _ ih =>
    simp only [Option.map_eq_some_iff, Prod.exists] at h
    obtain ⟨b, a, hb, e⟩ := h
    cases e
    simp [ih hb]
  | case3 => cases h

theorem length_of_cutPair {c : Char} {l before after : List Char}
    (h : cutPair c l = some (before, after)) : after.length < l.length := by
  rw [eq_of_cutPair h]
  simp only [List.length_append, List.length_cons]
  omega

/-- The pieces of a template. -/
def pieces (cs : List Char) : List Piece :=
  match _h : cutPair '\x7b' cs with
  | none => [.literal cs]
  | some (before, inside) =>
    match _k : cutPair '\x7d' inside with
    | none => [.literal cs]
    | some (path, rest) => .literal before :: .hole path :: pieces rest
termination_by cs.length
decreasing_by
  have h1 := length_of_cutPair _h
  have h2 := length_of_cutPair _k
  omega

/-- The text of a piece. -/
def Piece.source : Piece → List Char
  | .literal text => text
  | .hole path => '\x7b' :: '\x7b' :: path ++ ['\x7d', '\x7d']

/-- The pieces of a template make it up. -/
theorem flatMap_source_pieces (cs : List Char) : (pieces cs).flatMap Piece.source = cs := by
  fun_induction pieces cs with
  | case1 => simp [Piece.source]
  | case2 => simp [Piece.source]
  | case3 cs before inside h path rest k ih =>
    simp only [List.flatMap_cons, ih, Piece.source]
    rw [eq_of_cutPair h, eq_of_cutPair k]
    simp

end Template

namespace Payload

/-- What a payload puts into a piece. -/
def fill (p : Payload) : Template.Piece → String
  | .literal text => String.ofList text
  | .hole path =>
    match p.lookup (String.ofList path) with
    | some v => v.display
    | none => ""

/-- A template with its holes filled. -/
def render (p : Payload) (template : String) : String :=
  String.join ((Template.pieces template.toList).map p.fill)

end Payload
end KitchenFlow
