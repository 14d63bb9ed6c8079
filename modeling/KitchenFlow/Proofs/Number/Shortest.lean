import KitchenFlow.Number.Shortest
import KitchenFlow.Proofs.Digits
import KitchenFlow.Proofs.Number.Range
import Mathlib.Data.List.TakeWhile
import Mathlib.Tactic.IntervalCases
import Mathlib.Tactic.Ring

/-!
# The shortest digits of a number

The shortest decimal of a positive number begins with a digit other than zero. It need not be the
number itself, but it is not above the reals that are read as the number, and it does not become
larger if digits at its end are dropped. For all numbers but the largest, these reals stay below the
middle between the largest number but one and the largest.

    Binary64.significant_shortest   the shortest digits do not begin with zero
    Binary64.exists_shortest        what the shortest decimal is
    Binary64.upper_le               the upper end of the reals that are read as a number
-/

namespace KitchenFlow

/-! ## Digits -/

namespace Numeral

/-- Some digits, without a zero at the front. -/
structure Significant (ds : List Char) : Prop where
  ne_nil : ds ≠ []
  head_ne : ds.head? ≠ some '0'
  isDigit : ∀ c ∈ ds, isDigit c = true

variable {ds es : List Char}

theorem Significant.append (h : Significant ds) (hes : ∀ c ∈ es, Numeral.isDigit c = true) :
    Significant (ds ++ es) := by
  refine ⟨by simp [h.ne_nil], ?_, fun c hc => (List.mem_append.1 hc).elim (h.isDigit c) (hes c)⟩
  obtain ⟨c, rest, rfl⟩ := List.exists_cons_of_ne_nil h.ne_nil
  exact h.head_ne

theorem Significant.of_isPrefix (h : Significant ds) (hinit : es <+: ds) (hes : es ≠ []) :
    Significant es := by
  refine ⟨hes, fun hhead => h.head_ne ?_, fun c hc => h.isDigit c (hinit.subset hc)⟩
  obtain ⟨rest, rfl⟩ := hinit
  obtain ⟨c, es, rfl⟩ := List.exists_cons_of_ne_nil hes
  exact hhead

theorem significant_toDigits {n : Nat} (h : 0 < n) : Significant (Nat.toDigits 10 n) := by
  refine ⟨Nat.toDigits_ne_nil, ?_, fun _ => isDigit_of_mem_toDigits⟩
  induction n using Nat.strong_induction_on with
  | _ n ih =>
    rcases lt_or_ge n 10 with hn | hn
    · rw [Nat.toDigits_of_lt_base hn]
      interval_cases n <;> decide
    · have hrest := ih (n / 10) (by omega) (by omega)
      obtain ⟨c, rest, hdigits⟩ := List.exists_cons_of_ne_nil (Nat.toDigits_ne_nil (n := n / 10))
      rw [hdigits] at hrest
      rwa [Nat.toDigits_of_base_le (by decide) hn, hdigits]

/-- The first digits of a number are no more than the number. -/
theorem value_prefix_mul_le {n : Nat} (h : es <+: Nat.toDigits 10 n) :
    value es * 10 ^ ((Nat.toDigits 10 n).length - es.length) ≤ n := by
  obtain ⟨rest, hrest⟩ := h
  have hvalue := value_append es rest
  rw [hrest, value_toDigits] at hvalue
  rw [← hrest, List.length_append, Nat.add_sub_cancel_left]
  omega

end Numeral

open Numeral (Significant)

namespace Binary64

variable {r : Reading} {scale step top count units m : Nat}

/-! ## Grids -/

/-- A grid that is not too coarse for a number has a positive multiple next to it. -/
theorem Reading.onGrid?_pos {d : Nat} (hstep : 0 < step) (hle : 4 * step ≤ r.center * scale)
    (h : r.onGrid? scale step = some d) : 0 < d := by
  have hbelow : 0 < r.center * scale / (4 * step) := Nat.div_pos hle (by omega)
  unfold onGrid? at h
  dsimp only at h
  repeat' split at h
  all_goals cases h
  all_goals omega

theorem Reading.search_pos (h : 4 * 10 ^ top ≤ r.center * scale) :
    0 < (r.search scale count top).1 := by
  induction count generalizing top with
  | zero => exact Nat.div_pos h (Nat.mul_pos (by decide) (Nat.pow_pos (by decide)))
  | succ count ih =>
    rw [Reading.search]
    split
    · next hd => exact Reading.onGrid?_pos (Nat.pow_pos (by decide)) h hd
    · refine ih (le_trans (Nat.mul_le_mul_left 4 (Nat.pow_le_pow_right (by decide) ?_)) h)
      exact Nat.sub_le _ _

theorem Reading.le_upper_of_contains {x : Nat} (h : r.contains scale x = true) :
    x ≤ r.upper * scale := by
  unfold contains at h
  split at h
  · exact of_decide_eq_true (Bool.and_eq_true_iff.1 h).2
  · exact Nat.le_of_lt (of_decide_eq_true (Bool.and_eq_true_iff.1 h).2)

/-- What is found on a grid lies in the interval. -/
theorem Reading.contains_of_onGrid? {d : Nat} (h : r.onGrid? scale step = some d) :
    r.contains scale (4 * (d * step)) = true := by
  unfold onGrid? at h
  dsimp only at h
  generalize r.center * scale / (4 * step) = below at h
  split at h
  · next hboth =>
    obtain ⟨hdown, hup⟩ := Bool.and_eq_true_iff.1 hboth
    split_ifs at h <;> cases h <;> assumption
  · split_ifs at h with hdown hup
    · cases h
      exact hdown
    · cases h
      exact hup

theorem Reading.search_le (h : r.center ≤ r.upper) :
    4 * ((r.search scale count top).1 * 10 ^ (r.search scale count top).2) ≤ r.upper * scale := by
  induction count generalizing top with
  | zero =>
    calc 4 * (r.center * scale / (4 * 10 ^ top) * 10 ^ top)
        = r.center * scale / (4 * 10 ^ top) * (4 * 10 ^ top) := by rw [Nat.mul_left_comm]
      _ ≤ r.center * scale := Nat.div_mul_le_self _ _
      _ ≤ r.upper * scale := Nat.mul_le_mul_right scale h
  | succ count ih =>
    rw [search]
    split
    · next d hd => exact Reading.le_upper_of_contains (Reading.contains_of_onGrid? hd)
    · exact ih

/-! ## The shortest decimal -/

/-- Dropping zeros at the end leaves a beginning, and something of it. -/
theorem dropTrailingZeros_isPrefix {ds : List Char} (h : Significant ds) :
    dropTrailingZeros ds <+: ds ∧ dropTrailingZeros ds ≠ [] := by
  have hinit : (ds.reverse.dropWhile (· == '0')).reverse <+: ds := by
    rw [← List.reverse_suffix, List.reverse_reverse]
    exact List.dropWhile_suffix _
  unfold dropTrailingZeros
  split
  · next hnil =>
    obtain ⟨c, rest, rfl⟩ := List.exists_cons_of_ne_nil h.ne_nil
    rw [List.reverse_eq_nil_iff, List.dropWhile_eq_nil_iff] at hnil
    have hzero := hnil c (by simp)
    exact (h.head_ne (by simpa using hzero)).elim
  · next hne => exact ⟨hinit, hne⟩

/-- A power of ten with as many digits as a number is no larger. -/
theorem pow_digitCount_le {n : Nat} (h : 0 < n) : 10 ^ (Decimal.digitCount n - 1) ≤ n := by
  rcases Nat.eq_zero_or_pos (Decimal.digitCount n - 1) with hzero | hpos
  · rw [hzero]
    exact h
  · by_contra hlt
    have hlength := (Nat.length_toDigits_le_iff (by decide) hpos).2 (not_le.1 hlt)
    rw [Decimal.digitCount] at hpos hlength
    omega

/-- The shortest decimal has the digits of a positive number that is on a grid and not above the
reals that are read as the number. -/
theorem exists_shortest (p : Spacing) (h : 0 < units) :
    ∃ d top : Nat, 0 < d ∧ 4 * (d * 10 ^ top) ≤ (readingOf p units).upper * Nat.pow 5 unitExponent ∧
      shortest p units = ⟨dropTrailingZeros (Nat.toDigits 10 d),
        (top : Int) + ((Nat.toDigits 10 d).length - 1 : Nat) - unitExponent⟩ := by
  have hpow (n : Nat) : 0 < Nat.pow 5 n := Nat.pow_pos (by decide)
  have hscale := hpow unitExponent
  rw [shortest]
  generalize Nat.pow 5 unitExponent = scale at hscale ⊢
  have hfirst : 4 * 10 ^ (Decimal.digitCount (units * scale) - 1) ≤
      (readingOf p units).center * scale := by
    show _ ≤ 4 * units * scale
    rw [Nat.mul_assoc]
    exact Nat.mul_le_mul_left 4 (pow_digitCount_le (Nat.mul_pos h hscale))
  have hends : (readingOf p units).center ≤ (readingOf p units).upper := Nat.le_add_right _ _
  have hpos : 0 < ((readingOf p units).search scale 17
      (Decimal.digitCount (units * scale) - 1)).1 := Reading.search_pos hfirst
  exact ⟨_, _, hpos, Reading.search_le hends, rfl⟩

/-- The shortest digits of a positive number. -/
theorem significant_shortest (p : Spacing) (h : 0 < units) :
    Significant (shortest p units).digits := by
  obtain ⟨d, top, hd, -, hshortest⟩ := exists_shortest p h
  have hdigits := Numeral.significant_toDigits hd
  obtain ⟨hinit, hne⟩ := dropTrailingZeros_isPrefix hdigits
  rw [hshortest]
  exact hdigits.of_isPrefix hinit hne

/-- The first digits of the shortest decimal, with the exponent that is left for them, are not above
the reals that are read as the number. -/
theorem value_shortest_le (p : Spacing) (h : 0 < units) {es : List Char} {n : Nat}
    (hes : es <+: (shortest p units).digits)
    (hn : (shortest p units).exponent + 1 = n + es.length) :
    4 * (Numeral.value es * 10 ^ n * 2 ^ unitExponent) ≤ (readingOf p units).upper := by
  obtain ⟨d, top, hd, hle, hshortest⟩ := exists_shortest p h
  rw [hshortest] at hes hn
  have hprefix := hes.trans (dropTrailingZeros_isPrefix (Numeral.significant_toDigits hd)).1
  have hfirst := Numeral.value_prefix_mul_le hprefix
  have hlength := hprefix.length_le
  have hpos : 0 < (Nat.toDigits 10 d).length := List.length_pos_iff.2 Nat.toDigits_ne_nil
  generalize (Nat.toDigits 10 d).length = places at hn hfirst hlength hpos
  generalize (readingOf p units).upper = upper at hle ⊢
  generalize unitExponent = k at hn hle ⊢
  have hplaces : n + k = places - es.length + top := by
    dsimp only at hn
    omega
  refine Nat.le_of_mul_le_mul_right ?_ (Nat.pow_pos (by decide) : 0 < 5 ^ k)
  calc 4 * (Numeral.value es * 10 ^ n * 2 ^ k) * 5 ^ k
      = 4 * (Numeral.value es * 10 ^ (n + k)) := by
        rw [Nat.pow_add, show 10 = 2 * 5 from rfl, Nat.mul_pow 2 5 k]
        ring
    _ = 4 * (Numeral.value es * 10 ^ (places - es.length) * 10 ^ top) := by
        rw [hplaces, Nat.pow_add, Nat.mul_assoc]
    _ ≤ 4 * (d * 10 ^ top) := Nat.mul_le_mul_left 4 (Nat.mul_le_mul_right _ hfirst)
    _ ≤ upper * 5 ^ k := hle

/-! ## The interval of a number -/

/-- The largest number that there is room for, in units. -/
def greatestUnits : Nat := 9007199254740991 * Nat.pow 2 (971 + unitExponent)

/-- The middle between the largest number but one and the largest. -/
def middle : Nat := 18014398509481981 * Nat.pow 2 970

/-- The upper end of the reals that are read as a number with so many bits, unless it is the largest
of them. -/
theorem upper_le_of_log2_le (hlog : units.log2 + 1 ≤ m + 54)
    (hdvd : 2 ^ (units.log2 + 1 - 53) ∣ units) (hne : units ≠ 9007199254740991 * 2 ^ (m + 1)) :
    4 * units + 2 * 2 ^ (units.log2 + 1 - 53) ≤ 4 * (18014398509481981 * 2 ^ m) := by
  have hlt : units < 2 ^ (units.log2 + 1) := Nat.lt_log2_self
  rcases Nat.lt_or_eq_of_le hlog with hless | heq
  · have hunits : units < 2 ^ (m + 53) :=
      Nat.lt_of_lt_of_le hlt (Nat.pow_le_pow_right (by decide) (by omega))
    have hgap : 2 ^ (units.log2 + 1 - 53) ≤ 2 ^ m := Nat.pow_le_pow_right (by decide) (by omega)
    rw [Nat.pow_add] at hunits
    omega
  · -- with all bits in use, it is the multiple before the last one, or less
    have hshift : units.log2 + 1 - 53 = m + 1 := by omega
    rw [hshift] at hdvd ⊢
    obtain ⟨k, hk⟩ := hdvd
    have hbelow : k < 9007199254740992 := by
      refine Nat.lt_of_mul_lt_mul_left (a := 2 ^ (m + 1)) ?_
      rw [← hk, show 9007199254740992 = 2 ^ 53 from rfl, ← Nat.pow_add]
      rwa [heq] at hlt
    have hlast : k ≠ 9007199254740991 := by
      rintro rfl
      exact hne (hk.trans (Nat.mul_comm _ _))
    have hle : (8 * k + 4) * 2 ^ m ≤ 72057594037927924 * 2 ^ m :=
      Nat.mul_le_mul_right _ (by omega)
    calc 4 * units + 2 * 2 ^ (m + 1) = (8 * k + 4) * 2 ^ m := by
          rw [hk, Nat.pow_succ]
          ring
      _ ≤ 72057594037927924 * 2 ^ m := hle
      _ = 4 * (18014398509481981 * 2 ^ m) := by ring

theorem greatestUnits_eq : greatestUnits = 9007199254740991 * 2 ^ (970 + unitExponent + 1) := by
  have hexponent : 971 + unitExponent = 970 + unitExponent + 1 := by omega
  rw [greatestUnits, hexponent]
  generalize 970 + unitExponent + 1 = n
  rfl

theorem middle_mul : middle * 2 ^ unitExponent = 18014398509481981 * 2 ^ (970 + unitExponent) := by
  rw [middle]
  generalize 970 = n
  rw [Nat.pow_add, Nat.mul_assoc, Nat.pow_eq]

/-- The reals that are read as a number other than the largest stay below the middle between the
largest but one and the largest. -/
theorem upper_le {negative : Bool} (h : (finite negative units).Held)
    (hne : units ≠ greatestUnits) :
    (readingOf .double units).upper ≤ 4 * (middle * 2 ^ unitExponent) := by
  have hupper : (readingOf .double units).upper =
      4 * units + 2 * 2 ^ (units.log2 + 1 - precision) := by
    rw [readingOf, Spacing.double]
    dsimp only
    rw [Nat.max_eq_left (Nat.zero_le _), Nat.shiftLeft_eq, Nat.one_mul]
  rw [greatestUnits_eq] at hne
  rw [hupper, middle_mul]
  cases h with
  | finite _ hlt hdvd =>
    refine upper_le_of_log2_le ?_ hdvd hne
    rcases Nat.eq_zero_or_pos units with rfl | hpos
    · rw [Nat.log2_zero]
      omega
    · rw [overflowUnits_eq, ← Nat.log2_lt (Nat.ne_of_gt hpos)] at hlt
      omega

end Binary64
end KitchenFlow
