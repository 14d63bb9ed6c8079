import KitchenFlow.Json.Printer
import KitchenFlow.Proofs.Number.Shortest

/-!
# Number literals

JSON wants a number written as a whole number without needless zeros at its front, perhaps with a
fraction, perhaps with an exponent. Every number is written like that: the shortest digits of a
positive number do not begin with zero, however they are laid out, and an integer is written with
the digits that it has.

    Literal                     the parts of a number in text
    JsonNumber.exists_literal   every number is written as a literal
-/

namespace KitchenFlow

open Numeral (Significant)

/-! ## Literals -/

/-- The parts of a number without its sign: whole number, fraction and exponent with its sign. -/
structure Literal where
  whole : List Char
  fraction : Option (List Char)
  exponent : Option (Bool × List Char)

namespace Literal

/-- The fraction behind its point, if there is one. -/
def fractionText (l : Literal) : List Char :=
  match l.fraction with
  | none => []
  | some ds => '.' :: ds

/-- The exponent behind its letter, if there is one. -/
def exponentText (l : Literal) : List Char :=
  match l.exponent with
  | none => []
  | some (minus, ds) => 'e' :: (if minus then '-' else '+') :: ds

/-- A number as it stands in a text. -/
def text (l : Literal) : List Char := l.whole ++ (l.fractionText ++ l.exponentText)

/-- The parts are as JSON wants them. -/
structure Proper (l : Literal) : Prop where
  whole : l.whole = ['0'] ∨ Significant l.whole
  fraction : ∀ ds ∈ l.fraction, ds ≠ [] ∧ ∀ c ∈ ds, Numeral.isDigit c = true
  exponent : ∀ e ∈ l.exponent, e.2 ≠ [] ∧ ∀ c ∈ e.2, Numeral.isDigit c = true

/-- A literal begins with a digit. -/
theorem Proper.exists_text {l : Literal} (hl : l.Proper) :
    ∃ first tail, l.text = first :: tail ∧ Numeral.isDigit first = true := by
  rw [text]
  rcases hl.whole with h | h
  · exact ⟨'0', _, by rw [h]; rfl, rfl⟩
  · obtain ⟨first, tail, htail⟩ := List.exists_cons_of_ne_nil h.ne_nil
    exact ⟨first, _, by rw [htail]; rfl, h.isDigit first (htail ▸ List.mem_cons_self)⟩

/-- Digits around a point, of which only so many stand before it, and no exponent. -/
structure Plain (l : Literal) (places : Nat) : Prop where
  fraction : l.fraction.isSome
  exponent : l.exponent = none
  length_le : l.whole.length ≤ max 1 places

/-- One digit before the point, all others behind it, and an exponent. -/
structure Scientific (l : Literal) (digits : List Char) (exponent : Int) : Prop where
  length_eq : l.whole.length = 1
  digits_eq : l.whole ++ l.fraction.getD [] = digits
  exponent_eq : l.exponent = some (decide (exponent < 0), Nat.toDigits 10 exponent.natAbs)

/-- A whole number alone. -/
def ofWhole (ds : List Char) : Literal := ⟨ds, none, none⟩

@[simp] theorem text_ofWhole (ds : List Char) : (ofWhole ds).text = ds := by
  simp [text, ofWhole, fractionText, exponentText]

theorem proper_toDigits (n : Nat) : (ofWhole (Nat.toDigits 10 n)).Proper := by
  refine ⟨?_, by simp [ofWhole], by simp [ofWhole]⟩
  rcases Nat.eq_zero_or_pos n with rfl | hn
  · exact .inl rfl
  · exact .inr (Numeral.significant_toDigits hn)

/-- Digits around a point, and no exponent. -/
def pointed (whole fraction : List Char) : Literal := ⟨whole, some fraction, none⟩

@[simp] theorem text_pointed (whole fraction : List Char) :
    (pointed whole fraction).text = whole ++ '.' :: fraction := by
  simp [text, pointed, fractionText, exponentText]

theorem proper_pointed {whole fraction : List Char} (hwhole : whole = ['0'] ∨ Significant whole)
    (hne : fraction ≠ []) (hfraction : ∀ c ∈ fraction, Numeral.isDigit c = true) :
    (pointed whole fraction).Proper := by
  refine ⟨hwhole, ?_, by simp [pointed]⟩
  rintro _ ⟨⟩
  exact ⟨hne, hfraction⟩

theorem plain_pointed {whole fraction : List Char} {places : Nat}
    (h : whole.length ≤ max 1 places) : (pointed whole fraction).Plain places :=
  ⟨rfl, rfl, h⟩

end Literal

/-- A sign in front of a number, if it is negative. -/
def signText (negative : Bool) : List Char := if negative then ['-'] else []

namespace Layout

variable {l : Layout} {digits : List Char}

theorem exists_literal_plain (hl : l.pointZero = true) {point : Int}
    (hdigits : Significant digits ∨ digits = ['0'] ∧ point = 1) :
    ∃ m : Literal, m.Proper ∧ l.plain digits point = m.text ∧ m.Plain point.toNat := by
  have hall : ∀ c ∈ digits, Numeral.isDigit c = true := by
    rcases hdigits with h | ⟨rfl, -⟩
    · exact h.isDigit
    · exact List.forall_mem_singleton.2 rfl
  have hne : digits ≠ [] := by
    rcases hdigits with h | ⟨rfl, -⟩
    · exact h.ne_nil
    · simp
  have hzeros (n : Nat) : ∀ c ∈ List.replicate n '0', Numeral.isDigit c = true := by
    intro c hc
    rw [List.eq_of_mem_replicate hc]
    rfl
  rw [plain]
  split
  · refine ⟨.pointed ['0'] (List.replicate (-point).toNat '0' ++ digits),
      Literal.proper_pointed (.inl rfl) (by simp [hne]) ?_, by simp,
      Literal.plain_pointed (Nat.le_max_left _ _)⟩
    exact List.forall_mem_append.2 ⟨hzeros _, hall⟩
  · next hpoint =>
    dsimp only
    split
    · next hlt =>
      have hsignificant : Significant digits := by
        refine hdigits.resolve_right ?_
        rintro ⟨rfl, rfl⟩
        simp at hlt
      refine ⟨.pointed (digits.take point.toNat) (digits.drop point.toNat),
        Literal.proper_pointed (.inr (hsignificant.of_isPrefix (List.take_prefix _ _) ?_)) ?_
          fun c hc => hall c (List.mem_of_mem_drop hc), by simp, Literal.plain_pointed ?_⟩
      · rw [ne_eq, List.take_eq_nil_iff, not_or]
        exact ⟨by omega, hne⟩
      · rw [ne_eq, List.drop_eq_nil_iff]
        omega
      · exact le_trans (List.length_take_le _ _) (Nat.le_max_right _ _)
    · refine ⟨.pointed (digits ++ List.replicate (point.toNat - digits.length) '0') ['0'],
        Literal.proper_pointed ?_ (List.cons_ne_nil _ _) (List.forall_mem_singleton.2 rfl),
        by simp, Literal.plain_pointed ?_⟩
      · rcases hdigits with h | ⟨rfl, rfl⟩
        · exact .inr (h.append (hzeros _))
        · exact .inl rfl
      · rw [List.length_append, List.length_replicate]
        omega

theorem exists_literal_scientific (hdigits : Significant digits) (exponent : Int) :
    ∃ m : Literal, m.Proper ∧ scientific digits exponent = m.text ∧
      m.Scientific digits exponent := by
  have hexponent : ∀ e ∈ some (decide (exponent < 0), Nat.toDigits 10 exponent.natAbs),
      e.2 ≠ [] ∧ ∀ c ∈ e.2, Numeral.isDigit c = true := by
    rintro _ ⟨⟩
    exact ⟨Nat.toDigits_ne_nil, fun _ => Numeral.isDigit_of_mem_toDigits⟩
  match digits, hdigits with
  | [], h => exact (h.ne_nil rfl).elim
  | [d], h =>
    exact ⟨⟨[d], none, some (decide (exponent < 0), Nat.toDigits 10 exponent.natAbs)⟩,
      ⟨.inr h, by simp, hexponent⟩,
      by simp [scientific, Literal.text, Literal.fractionText, Literal.exponentText],
      ⟨rfl, rfl, rfl⟩⟩
  | d :: e :: rest, h =>
    refine ⟨⟨[d], some (e :: rest), some (decide (exponent < 0), Nat.toDigits 10 exponent.natAbs)⟩,
      ⟨.inr (h.of_isPrefix (List.prefix_append [d] _) (by simp)), ?_, hexponent⟩,
      by simp [scientific, Literal.text, Literal.fractionText, Literal.exponentText],
      ⟨rfl, rfl, rfl⟩⟩
    rintro _ ⟨⟩
    exact ⟨by simp, fun c hc => h.isDigit c (List.mem_cons_of_mem _ hc)⟩

/-- How a count of units is laid out: without an exponent where this is plain, else with one. -/
inductive Lays (l : Layout) (units : Nat) (m : Literal) : Prop
  | zero : m.Plain 1 → Lays l units m
  | plain : l.isPlain (Binary64.shortest l.spacing units).exponent = true →
    m.Plain ((Binary64.shortest l.spacing units).exponent + 1).toNat → Lays l units m
  | scientific : 0 < units → l.isPlain (Binary64.shortest l.spacing units).exponent = false →
    m.Scientific (Binary64.shortest l.spacing units).digits
      (Binary64.shortest l.spacing units).exponent → Lays l units m

/-- A finite number is written as a literal. -/
theorem exists_literal_render (hl : l.pointZero = true) (negative : Bool) (units : Nat) :
    ∃ m : Literal, m.Proper ∧
      (l.render (.finite negative units)).toList = signText negative ++ m.text ∧
        l.Lays units m := by
  rw [render]
  dsimp only
  rw [String.toList_ofList]
  suffices h : ∃ m : Literal, m.Proper ∧ (if units = 0 then l.plain ['0'] 1 else
      if l.isPlain (Binary64.shortest l.spacing units).exponent then
        l.plain (Binary64.shortest l.spacing units).digits
          ((Binary64.shortest l.spacing units).exponent + 1)
      else scientific (Binary64.shortest l.spacing units).digits
        (Binary64.shortest l.spacing units).exponent) = m.text ∧ l.Lays units m by
    obtain ⟨m, hm, htext, hlays⟩ := h
    exact ⟨m, hm, congrArg _ htext, hlays⟩
  split
  · have hzero : Significant ['0'] ∨ ['0'] = ['0'] ∧ (1 : Int) = 1 := .inr ⟨rfl, rfl⟩
    obtain ⟨m, hm, htext, hplain⟩ := exists_literal_plain hl hzero
    exact ⟨m, hm, htext, .zero hplain⟩
  · next hunits =>
    have hpos := Nat.pos_of_ne_zero hunits
    have hdigits := Binary64.significant_shortest l.spacing hpos
    split
    · next hlayout =>
      obtain ⟨m, hm, htext, hplain⟩ := exists_literal_plain hl (.inl hdigits)
      exact ⟨m, hm, htext, .plain hlayout hplain⟩
    · next hlayout =>
      obtain ⟨m, hm, htext, hscientific⟩ := exists_literal_scientific hdigits _
      exact ⟨m, hm, htext, .scientific hpos (Bool.eq_false_iff.2 hlayout) hscientific⟩

end Layout

namespace JsonNumber

/-- Whether a number can be written as a literal. -/
def isFinite : JsonNumber → Bool
  | .int _ => true
  | .float x | .single x => x.isFinite

theorem toList_render_int (n : Int) :
    (render (.int n)).toList = signText (decide (n < 0)) ++ Nat.toDigits 10 n.natAbs := by
  rcases n with n | n
  · exact String.toList_ofList
  · show ("-" ++ String.ofList (Nat.toDigits 10 (n + 1))).toList = _
    rw [String.toList_append, String.toList_ofList (l := Nat.toDigits 10 (n + 1)),
      decide_eq_true (Int.negSucc_lt_zero n)]
    rfl

/-- Every finite number is written as a literal. -/
theorem exists_literal {n : JsonNumber} (h : n.isFinite = true) :
    ∃ negative, ∃ m : Literal, m.Proper ∧ n.render.toList = signText negative ++ m.text := by
  match n, h with
  | .int n, _ =>
    refine ⟨decide (n < 0), .ofWhole (Nat.toDigits 10 n.natAbs), Literal.proper_toDigits _, ?_⟩
    rw [toList_render_int, Literal.text_ofWhole]
  | .float (.finite negative units), _ =>
    obtain ⟨m, hm, htext, -⟩ := Layout.exists_literal_render (l := .json) rfl negative units
    exact ⟨negative, m, hm, htext⟩
  | .single (.finite negative units), _ =>
    obtain ⟨m, hm, htext, -⟩ := Layout.exists_literal_render (l := .jsonSingle) rfl negative units
    exact ⟨negative, m, hm, htext⟩

end JsonNumber
end KitchenFlow
