import KitchenFlow.Number.Numeral
import KitchenFlow.Text.Case
import Mathlib.Algebra.Order.Field.Rat
import Mathlib.Data.String.Basic
import Mathlib.Order.WithBot
import Mathlib.Tactic.Positivity

/-!
# What numbers stand for

A binary64 number stands for a rational number or one of the two infinities, unless it is
not-a-number, and numbers are ordered as what they stand for. Of the texts that are read as numbers,
only the word `nan` with a sign or without one is read as not-a-number.

    Binary64.value?           what a number stands for
    Binary64.compare?_eq_cmp  the order of numbers is that of their values
    Binary64.ofText?_eq_nan   the texts that are read as not-a-number
-/

namespace KitchenFlow

namespace Binary64

/-- What a number stands for: a multiple of the unit, or what is below or above all others. -/
def value? : Binary64 → Option (WithBot (WithTop ℚ))
  | .nan => none
  | .infinite negative => some (if negative then ⊥ else ⊤)
  | .finite negative units => some ((signedUnits negative units / 2 ^ unitExponent : ℚ) : WithTop ℚ)

variable {x y : Binary64} {a b : WithBot (WithTop ℚ)}

theorem div_unit_lt_iff {m n : Int} :
    (m / 2 ^ unitExponent : ℚ) < n / 2 ^ unitExponent ↔ m < n := by
  rw [div_lt_div_iff_of_pos_right (by positivity), Int.cast_lt]

/-- As many units as make up a natural number stand for it. -/
theorem value?_natural (n : Nat) :
    (finite false (n * 2 ^ unitExponent)).value? =
      some (((n : ℚ) : WithTop ℚ) : WithBot (WithTop ℚ)) := by
  have hunit : (2 ^ unitExponent : ℚ) ≠ 0 := by positivity
  have hvalue : (signedUnits false (n * 2 ^ unitExponent) / 2 ^ unitExponent : ℚ) = n := by
    rw [signedUnits, if_neg Bool.false_ne_true]
    push_cast
    rw [mul_div_cancel_right₀ _ hunit]
  rw [value?, hvalue]

/-- Numbers are ordered by value. -/
theorem compare?_eq_cmp (hx : x.value? = some a) (hy : y.value? = some b) :
    compare? x y = some (cmp a b) := by
  match x, y with
  | .nan, _ => cases hx
  | _, .nan => cases hy
  | .infinite s, .infinite t =>
    cases hx
    cases hy
    cases s <;> cases t <;> rfl
  | .infinite s, .finite t v =>
    cases hx
    cases hy
    cases s <;> rfl
  | .finite s u, .infinite t =>
    cases hx
    cases hy
    cases t <;> rfl
  | .finite s u, .finite t v =>
    cases hx
    cases hy
    refine congrArg some ?_
    rcases lt_trichotomy (signedUnits s u) (signedUnits t v) with h | h | h
    · rw [compare_lt_iff_lt.2 h, eq_comm, cmp_eq_lt_iff]
      exact WithBot.coe_lt_coe.2 (WithTop.coe_lt_coe.2 (div_unit_lt_iff.2 h))
    · rw [h, compare_eq_iff_eq.2 rfl, eq_comm, cmp_eq_eq_iff]
    · rw [compare_gt_iff_gt.2 h, eq_comm, cmp_eq_gt_iff]
      exact WithBot.coe_lt_coe.2 (WithTop.coe_lt_coe.2 (div_unit_lt_iff.2 h))

/-! ## Not-a-number -/

theorem ofUnits_ne_nan (negative : Bool) (units : Nat) : ofUnits negative units ≠ .nan := by
  by_cases h : units < overflowUnits
  · rw [ofUnits, if_pos h]
    exact Binary64.noConfusion
  · rw [ofUnits, if_neg h]
    exact Binary64.noConfusion

end Binary64

theorem Decimal.toBinary64_ne_nan (d : Decimal) : d.toBinary64 ≠ .nan := by
  unfold Decimal.toBinary64
  split_ifs
  · exact Binary64.noConfusion
  · exact Binary64.noConfusion
  · exact Binary64.noConfusion
  · exact Binary64.ofUnits_ne_nan _ _
  · exact Binary64.ofUnits_ne_nan _ _

namespace Numeral

/-- Digits are in no case. -/
theorem toLower_of_isDigit {c : Char} (h : isDigit c = true) : c.toLower = c := by
  simp only [isDigit, Bool.and_eq_true, decide_eq_true_eq] at h
  have hnine : c.val.toNat ≤ 57 := h.2
  unfold Char.toLower
  rw [dif_neg]
  rintro ⟨hcapital, -⟩
  have hcapital : 65 ≤ c.val.toNat := hcapital
  omega

/-- The texts for not-a-number: the word `nan` in any case, with a sign or without one. -/
def NamesNaN (s : String) : Prop :=
  ∃ sign ∈ ["", "+", "-"], ∃ word, s = sign ++ word ∧ Text.lower word = "nan"

/-- What is written `nan` begins with its first letter. -/
theorem exists_letter_of_lower {cs : List Char} (h : Text.lower (String.ofList cs) = "nan") :
    ∃ n rest, cs = n :: rest ∧ n.toLower = 'n' := by
  have hlist : cs.map Char.toLower = ['n', 'a', 'n'] := by
    simpa [Text.lower] using congrArg String.toList h
  obtain ⟨n, rest, rfl, hn, -⟩ := List.map_eq_cons_iff.1 hlist
  exact ⟨n, rest, rfl, hn⟩

theorem word?_eq_nan {negative : Bool} {cs : List Char} :
    word? negative cs = some .nan ↔ Text.lower (String.ofList cs) = "nan" := by
  unfold word? Text.lower
  rw [String.toList_ofList]
  split <;> simp_all

theorem unsigned?_eq_nan {negative : Bool} {cs : List Char} :
    unsigned? negative cs = some .nan ↔ Text.lower (String.ofList cs) = "nan" := by
  have hfinite {o : Option Int} {f : Int → Decimal} :
      o.map (fun e => (f e).toBinary64) ≠ some .nan := by
    intro h
    obtain ⟨e, -, he⟩ := Option.map_eq_some_iff.1 h
    exact Decimal.toBinary64_ne_nan _ he
  constructor
  · intro h
    unfold unsigned? at h
    dsimp only at h
    split at h
    · split at h
      · cases h
      · exact (hfinite h).elim
    · split at h
      · exact word?_eq_nan.1 h
      · exact (hfinite h).elim
  · intro h
    obtain ⟨n, rest, rfl, hn⟩ := exists_letter_of_lower h
    -- the first letter is neither a digit nor a point
    have hdigit : ¬isDigit n = true := by
      intro hdigit
      rw [toLower_of_isDigit hdigit] at hn
      rw [hn] at hdigit
      exact absurd hdigit (by decide)
    have hpoint : n ≠ '.' := by
      rintro rfl
      exact absurd hn (by decide)
    unfold unsigned?
    dsimp only
    rw [List.takeWhile_cons_of_neg hdigit, List.dropWhile_cons_of_neg hdigit]
    split
    · next h => exact (hpoint (List.cons.inj h).1).elim
    · exact word?_eq_nan.2 h

end Numeral

/-- What is read as not-a-number is the word for it. -/
theorem Binary64.ofText?_eq_nan {s : String} :
    Binary64.ofText? s = some .nan ↔ Numeral.NamesNaN s := by
  have hrest : Binary64.ofText? s = some .nan ↔
      Text.lower (String.ofList (Numeral.splitSign s.toList).2) = "nan" :=
    Numeral.unsigned?_eq_nan
  rw [hrest]
  constructor
  · intro h
    unfold Numeral.splitSign at h
    split at h
    · next rest hs =>
      refine ⟨"-", by simp, String.ofList rest, String.toList_injective ?_, h⟩
      rw [hs, String.toList_append, String.toList_ofList (l := rest)]
      rfl
    · next rest hs =>
      refine ⟨"+", by simp, String.ofList rest, String.toList_injective ?_, h⟩
      rw [hs, String.toList_append, String.toList_ofList (l := rest)]
      rfl
    · refine ⟨"", by simp, s, (String.empty_append).symm, ?_⟩
      rwa [String.ofList_toList] at h
  · rintro ⟨sign, hsign, word, rfl, hword⟩
    simp only [List.mem_cons, List.not_mem_nil, or_false] at hsign
    rw [← String.ofList_toList (s := word)] at hword
    rw [String.toList_append]
    rcases hsign with rfl | rfl | rfl
    · obtain ⟨n, rest, hlist, hn⟩ := Numeral.exists_letter_of_lower hword
      rw [String.toList_empty, List.nil_append, hlist, Numeral.splitSign.eq_3]
      · rwa [hlist] at hword
      · intro _ h
        rw [(List.cons.inj h).1] at hn
        exact absurd hn (by decide)
      · intro _ h
        rw [(List.cons.inj h).1] at hn
        exact absurd hn (by decide)
    · exact hword
    · exact hword

end KitchenFlow
