/-!
# Letter case within ASCII

Names of options, statuses and categories are compared without regard to the case of the letters
`A` to `Z`; all other characters have to agree exactly. Where a text has to be put in capitals as a
whole, the few other letters matter whose capitals are ASCII.
-/

namespace KitchenFlow.Text

/-- A text with its letters `A` to `Z` made small. -/
def lower (s : String) : String := String.ofList (s.toList.map Char.toLower)

/-- A text with its letters `a` to `z` made capital. -/
def upper (s : String) : String := String.ofList (s.toList.map Char.toUpper)

/-- The letters beyond ASCII whose capitals are letters `A` to `Z`. -/
def wideLetters : List (Char × String) :=
  [('ß', "SS"), ('ı', "I"), ('ſ', "S"), ('ﬀ', "FF"), ('ﬁ', "FI"), ('ﬂ', "FL"), ('ﬃ', "FFI"),
    ('ﬄ', "FFL"), ('ﬅ', "ST"), ('ﬆ', "ST")]

/-- A text in capitals where they are ASCII; whatever else is not ASCII stays as it is. -/
def capitals (s : String) : String :=
  String.ofList (s.toList.flatMap fun c =>
    match wideLetters.lookup c with
    | some t => t.toList
    | none => [c.toUpper])

/-- Whether two texts agree up to the case of ASCII letters. -/
def sameLetters (s t : String) : Bool := lower s == lower t

@[simp] theorem sameLetters_refl (s : String) : sameLetters s s = true := by
  simp [sameLetters]

theorem sameLetters_iff {s t : String} : sameLetters s t = true ↔ lower s = lower t := by
  simp [sameLetters]

theorem sameLetters_comm (s t : String) : sameLetters s t = sameLetters t s := by
  simp only [sameLetters, Bool.beq_comm]

end KitchenFlow.Text
