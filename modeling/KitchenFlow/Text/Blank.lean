/-!
# Blank text

A character is blank when it has the Unicode property `White_Space`. Trimming drops the blank
characters at both ends; a text is blank when nothing is left.
-/

namespace KitchenFlow.Text

/-- The characters with the property `White_Space`. -/
def isBlankChar (c : Char) : Bool :=
  let n := c.toNat
  (0x09 ≤ n && n ≤ 0x0D) || n == 0x20 || n == 0x85 || n == 0xA0 || n == 0x1680 ||
    (0x2000 ≤ n && n ≤ 0x200A) || n == 0x2028 || n == 0x2029 || n == 0x202F || n == 0x205F ||
    n == 0x3000

/-- Drops the blank characters at the front. -/
def trimStart (cs : List Char) : List Char := cs.dropWhile isBlankChar

/-- Drops the blank characters at the back. -/
def trimEnd (cs : List Char) : List Char := (cs.reverse.dropWhile isBlankChar).reverse

/-- Drops the blank characters at both ends. -/
def trimChars (cs : List Char) : List Char := trimEnd (trimStart cs)

/-- A text without the blank characters at its ends. -/
def trim (s : String) : String := String.ofList (trimChars s.toList)

/-- Whether a text holds nothing but blank characters. -/
def isBlank (s : String) : Bool := s.toList.all isBlankChar

/-! ### Trimming -/

theorem dropWhile_eq_self_of_head {p : Char → Bool} {c : Char} {r : List Char}
    (h : p c = false) : (c :: r).dropWhile p = c :: r := by
  simp [h]

theorem head_of_dropWhile {p : Char → Bool} :
    ∀ {l : List Char} {c r}, l.dropWhile p = c :: r → p c = false
  | [], _, _, h => by simp at h
  | a :: as, c, r, h => by
    rw [List.dropWhile_cons] at h
    split at h
    · exact head_of_dropWhile h
    · next ha => cases h; simpa using ha

theorem dropWhile_dropWhile (p : Char → Bool) (l : List Char) :
    (l.dropWhile p).dropWhile p = l.dropWhile p := by
  cases h : l.dropWhile p with
  | nil => rfl
  | cons c r => exact dropWhile_eq_self_of_head (head_of_dropWhile h)

/-- Nothing is left of a list exactly when all of it is dropped. -/
theorem dropWhile_eq_nil_iff_all {p : Char → Bool} (l : List Char) :
    l.dropWhile p = [] ↔ l.all p = true := by
  induction l with
  | nil => simp
  | cons a as ih =>
    rw [List.dropWhile_cons]
    split <;> simp_all

end KitchenFlow.Text
