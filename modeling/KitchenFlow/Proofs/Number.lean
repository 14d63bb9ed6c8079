import KitchenFlow.Number.Binary64
import Mathlib.Algebra.GroupWithZero.Nat
import Mathlib.Tactic.SplitIfs

/-!
# The order of binary64 numbers

Numbers are ordered by value, so `ble` is transitive. Rounding keeps the order: counts with as many
bits are rounded to multiples of the same power of two, and if one count has more bits than the
other, a power of two lies between them and is not passed by either.

    ble_trans            x ≤ y and y ≤ z give x ≤ z
    ofInt_mono           greater integers become greater numbers, or equal ones
    toSingle_toSingle    a number in single precision stays what it is there
-/

namespace KitchenFlow.Binary64

/-! ## Order -/

/-- Of two finite numbers, the one with the lesser signed count is less or equal. -/
theorem ble_finite_iff {s t : Bool} {u v : Nat} :
    (finite s u).ble (finite t v) = true ↔ signedUnits s u ≤ signedUnits t v := by
  rcases Int.lt_trichotomy (signedUnits s u) (signedUnits t v) with h | h | h
  · have hc : compare (signedUnits s u) (signedUnits t v) = .lt := Int.compare_eq_lt.2 h
    simp [ble, compare?, hc, Int.le_of_lt h]
  · simp [ble, compare?, h]
  · have hc : compare (signedUnits s u) (signedUnits t v) = .gt := Int.compare_eq_gt.2 h
    simpa [ble, compare?, hc] using h

/-- Of two finite numbers, one is less than the other, or at least as large. -/
theorem blt_finite_eq_false_iff {s t : Bool} {u v : Nat} :
    (finite s u).blt (finite t v) = false ↔ (finite t v).ble (finite s u) = true := by
  rw [ble_finite_iff, ← Int.not_lt, ← Int.compare_eq_lt]
  simp [blt, compare?]

/-- Below minus infinity there is nothing else. -/
theorem eq_of_ble_infinite {x : Binary64} (h : x.ble (.infinite true) = true) :
    x = .infinite true := by
  cases x with
  | nan | finite => cases h
  | infinite s => cases s <;> first | rfl | cases h

/-- Above infinity there is nothing else. -/
theorem eq_of_infinite_ble {x : Binary64} (h : (infinite false).ble x = true) :
    x = .infinite false := by
  cases x with
  | nan | finite => cases h
  | infinite s => cases s <;> first | rfl | cases h

theorem infinite_ble {x : Binary64} (h : x ≠ .nan) : (infinite true).ble x = true := by
  cases x with
  | nan => exact (h rfl).elim
  | infinite s => cases s <;> rfl
  | finite => rfl

theorem ble_infinite {x : Binary64} (h : x ≠ .nan) : x.ble (.infinite false) = true := by
  cases x with
  | nan => exact (h rfl).elim
  | infinite s => cases s <;> rfl
  | finite => rfl

/-- Only numbers are compared. -/
theorem ne_nan_of_ble {x y : Binary64} (h : x.ble y = true) : x ≠ .nan ∧ y ≠ .nan := by
  constructor
  · rintro rfl
    simp [ble] at h
  · rintro rfl
    simp [ble] at h

theorem ble_trans {x y z : Binary64} (hxy : x.ble y = true) (hyz : y.ble z = true) :
    x.ble z = true := by
  have hx := (ne_nan_of_ble hxy).1
  have hz := (ne_nan_of_ble hyz).2
  -- the infinities are at the ends, so what is left are three finite numbers
  match x, y, z with
  | .infinite true, _, z => exact infinite_ble hz
  | .infinite false, y, z => rwa [eq_of_infinite_ble hxy] at hyz
  | x, _, .infinite false => exact ble_infinite hx
  | x, y, .infinite true => rwa [eq_of_ble_infinite hyz] at hxy
  | .finite .., .infinite true, .finite .. => cases hxy
  | .finite .., .infinite false, .finite .. => cases hyz
  | .finite .., .finite .., .finite .. =>
    rw [ble_finite_iff] at hxy hyz ⊢
    exact Int.le_trans hxy hyz
  | .nan, _, _ => exact (hx rfl).elim
  | _, _, .nan => exact (hz rfl).elim
  | _, .nan, _ => exact ((ne_nan_of_ble hxy).2 rfl).elim

/-! ## Rounding -/

variable {a b num den bits : Nat}

theorem div_le_roundDiv (num den : Nat) : num / den ≤ roundDiv num den := by
  unfold roundDiv
  dsimp only
  split
  · exact Nat.le_refl _
  · split
    · exact Nat.le_succ _
    · split
      · exact Nat.le_refl _
      · exact Nat.le_succ _

theorem roundDiv_le_succ (num den : Nat) : roundDiv num den ≤ num / den + 1 := by
  unfold roundDiv
  dsimp only
  split
  · exact Nat.le_succ _
  · split
    · exact Nat.le_refl _
    · split
      · exact Nat.le_succ _
      · exact Nat.le_refl _

theorem roundDiv_mono (h : a ≤ b) : roundDiv a den ≤ roundDiv b den := by
  rcases Nat.lt_or_eq_of_le (Nat.div_le_div_right h : a / den ≤ b / den) with hq | hq
  · calc roundDiv a den ≤ a / den + 1 := roundDiv_le_succ a den
      _ ≤ b / den := hq
      _ ≤ roundDiv b den := div_le_roundDiv b den
  · -- with the same quotient, the greater number has the greater remainder
    have ha := Nat.div_add_mod a den
    have hb := Nat.div_add_mod b den
    rw [hq] at ha
    have hr : a % den ≤ b % den := by omega
    unfold roundDiv
    rw [hq]
    dsimp only
    split_ifs <;> omega

theorem roundToBits_eq (bits num den : Nat) :
    roundToBits bits num den =
      roundDiv num (den * 2 ^ ((num / den).log2 + 1 - bits)) *
        2 ^ ((num / den).log2 + 1 - bits) := by
  simp only [roundToBits, surplusBits, Nat.shiftLeft_eq]

/-- A count is not rounded below the power of two that is not above it. -/
theorem le_roundToBits (hbits : 0 < bits) (hnum : num / den ≠ 0) :
    2 ^ (num / den).log2 ≤ roundToBits bits num den := by
  have hs : (num / den).log2 + 1 - bits ≤ (num / den).log2 := by omega
  rw [roundToBits_eq]
  generalize (num / den).log2 + 1 - bits = s at hs
  have hq : 2 ^ ((num / den).log2 - s) ≤ num / (den * 2 ^ s) := by
    rw [← Nat.div_div_eq_div_mul, Nat.le_div_iff_mul_le (Nat.two_pow_pos s), ← Nat.pow_add,
      Nat.sub_add_cancel hs]
    exact Nat.log2_self_le hnum
  calc 2 ^ (num / den).log2 = 2 ^ ((num / den).log2 - s) * 2 ^ s := by
        rw [← Nat.pow_add, Nat.sub_add_cancel hs]
    _ ≤ roundDiv num (den * 2 ^ s) * 2 ^ s :=
      Nat.mul_le_mul_right _ (Nat.le_trans hq (div_le_roundDiv num _))

/-- A count is not rounded above the power of two that is above it. -/
theorem roundToBits_le (bits num den : Nat) :
    roundToBits bits num den ≤ 2 ^ ((num / den).log2 + 1) := by
  have hs : (num / den).log2 + 1 - bits ≤ (num / den).log2 + 1 := Nat.sub_le _ _
  rw [roundToBits_eq]
  generalize (num / den).log2 + 1 - bits = s at hs
  have hq : num / (den * 2 ^ s) < 2 ^ ((num / den).log2 + 1 - s) := by
    rw [← Nat.div_div_eq_div_mul, Nat.div_lt_iff_lt_mul (Nat.two_pow_pos s), ← Nat.pow_add,
      Nat.sub_add_cancel hs]
    exact Nat.lt_log2_self
  calc roundDiv num (den * 2 ^ s) * 2 ^ s ≤ 2 ^ ((num / den).log2 + 1 - s) * 2 ^ s :=
      Nat.mul_le_mul_right _ (Nat.le_trans (roundDiv_le_succ num _) hq)
    _ = 2 ^ ((num / den).log2 + 1) := by rw [← Nat.pow_add, Nat.sub_add_cancel hs]

theorem roundToBits_mono (hbits : 0 < bits) (h : a ≤ b) (den : Nat) :
    roundToBits bits a den ≤ roundToBits bits b den := by
  have hlog : (a / den).log2 ≤ (b / den).log2 := by
    rcases Nat.eq_zero_or_pos (a / den) with ha | ha
    · rw [ha]
      exact Nat.zero_le _
    · have hle : a / den ≤ b / den := Nat.div_le_div_right h
      rw [Nat.le_log2 (by omega)]
      exact Nat.le_trans (Nat.log2_self_le (Nat.ne_of_gt ha)) hle
  rcases Nat.lt_or_eq_of_le hlog with hlog | hlog
  · have hb : b / den ≠ 0 := by
      intro hzero
      rw [hzero] at hlog
      exact Nat.not_lt_zero _ hlog
    calc roundToBits bits a den ≤ 2 ^ ((a / den).log2 + 1) := roundToBits_le bits a den
      _ ≤ 2 ^ (b / den).log2 := Nat.pow_le_pow_right (by decide) hlog
      _ ≤ roundToBits bits b den := le_roundToBits hbits hb
  · rw [roundToBits_eq, roundToBits_eq, hlog]
    exact Nat.mul_le_mul_right _ (roundDiv_mono h)

theorem roundUnits_mono (h : a ≤ b) :
    roundUnits (a <<< unitExponent) 1 ≤ roundUnits (b <<< unitExponent) 1 := by
  refine roundToBits_mono (by decide) ?_ 1
  rw [Nat.shiftLeft_eq, Nat.shiftLeft_eq]
  exact Nat.mul_le_mul_right _ h

/-! ## Integers -/

theorem ofUnits_mono (h : a ≤ b) : (ofUnits false a).ble (ofUnits false b) = true := by
  unfold ofUnits
  split
  · split
    · rw [ble_finite_iff]
      simpa [signedUnits] using h
    · rfl
  · next ha =>
    rw [if_neg (by omega)]
    rfl

theorem ofUnits_anti (h : a ≤ b) : (ofUnits true b).ble (ofUnits true a) = true := by
  unfold ofUnits
  split
  · next hb =>
    rw [if_pos (by omega), ble_finite_iff]
    simpa [signedUnits] using h
  · split <;> rfl

theorem ofUnits_negative_le (a b : Nat) : (ofUnits true a).ble (ofUnits false b) = true := by
  unfold ofUnits
  split
  · split
    · rw [ble_finite_iff]
      simp only [signedUnits, if_true, Bool.false_eq_true, if_false]
      omega
    · rfl
  · split <;> rfl

/-- Greater integers become greater numbers, or equal ones. -/
theorem ofInt_mono {m n : Int} (h : m ≤ n) : (ofInt m).ble (ofInt n) = true := by
  unfold ofInt ofRatio
  by_cases hm : m < 0
  · by_cases hn : n < 0
    · rw [decide_eq_true hm, decide_eq_true hn]
      exact ofUnits_anti (roundUnits_mono (by omega))
    · rw [decide_eq_true hm, decide_eq_false hn]
      exact ofUnits_negative_le _ _
  · rw [decide_eq_false hm, decide_eq_false (by omega)]
    exact ofUnits_mono (roundUnits_mono (by omega))

/-! ## Single precision -/

theorem roundDiv_mul (n : Nat) (hden : 0 < den) : roundDiv (n * den) den = n := by
  unfold roundDiv
  rw [Nat.mul_div_cancel n hden, Nat.mul_mod_left]
  exact if_pos (by omega)

/-- What is rounded has no more bits than it may have, up to the zeros at its end. -/
theorem dvd_roundToBits (num den : Nat) (hbits : 0 < bits) :
    2 ^ ((roundToBits bits num den).log2 + 1 - bits) ∣ roundToBits bits num den := by
  unfold roundToBits
  dsimp only
  have hs : (num / den).log2 + 1 ≤ bits + surplusBits bits num den := by
    unfold surplusBits
    omega
  generalize surplusBits bits num den = s at hs
  rw [Nat.shiftLeft_eq, Nat.shiftLeft_eq]
  have hq : roundDiv num (den * 2 ^ s) ≤ 2 ^ bits := by
    have hlt : num / (den * 2 ^ s) < 2 ^ bits := by
      rw [← Nat.div_div_eq_div_mul, Nat.div_lt_iff_lt_mul (Nat.two_pow_pos s), ← Nat.pow_add]
      exact Nat.lt_of_lt_of_le Nat.lt_log2_self (Nat.pow_le_pow_right (by decide) hs)
    exact Nat.le_trans (roundDiv_le_succ _ _) hlt
  generalize roundDiv num (den * 2 ^ s) = q at hq
  rcases Nat.lt_or_eq_of_le hq with hlt | heq
  · -- with few bits, the zeros at the end are those that rounding has put there
    rcases Nat.eq_zero_or_pos q with rfl | hpos
    · simp
    have hlog : (q * 2 ^ s).log2 < bits + s := by
      rw [Nat.log2_lt (Nat.mul_ne_zero (Nat.ne_of_gt hpos) (Nat.ne_of_gt (Nat.two_pow_pos s))),
        Nat.pow_add]
      exact Nat.mul_lt_mul_of_pos_right hlt (Nat.two_pow_pos s)
    exact Nat.dvd_mul_left_of_dvd (Nat.pow_dvd_pow 2 (by omega)) q
  · rw [heq, ← Nat.pow_add, Nat.log2_two_pow]
    exact Nat.pow_dvd_pow 2 (by omega)

/-- What has no more bits than it may have is not rounded. -/
theorem roundToBits_mul (h : 2 ^ (num.log2 + 1 - bits) ∣ num) (hden : 0 < den) :
    roundToBits bits (num * den) den = num := by
  unfold roundToBits surplusBits
  dsimp only
  rw [Nat.mul_div_cancel num hden, Nat.shiftLeft_eq, Nat.shiftLeft_eq]
  generalize num.log2 + 1 - bits = s at h
  obtain ⟨n, rfl⟩ := h
  have hnum : 2 ^ s * n * den = n * (den * 2 ^ s) := by
    rw [Nat.mul_comm (2 ^ s), Nat.mul_assoc, Nat.mul_comm (2 ^ s)]
  rw [hnum, roundDiv_mul n (Nat.mul_pos hden (Nat.two_pow_pos s)), Nat.mul_comm]

/-- A number in single precision stays what it is there. -/
theorem toSingle_toSingle (x : Binary64) : x.toSingle.toSingle = x.toSingle := by
  cases x with
  | nan | infinite => rfl
  | finite s u =>
    have hpos := Nat.two_pow_pos (unitExponent - singleUnitExponent)
    have hdvd := dvd_roundToBits u (2 ^ (unitExponent - singleUnitExponent)) (by decide : 0 < 24)
    have hround := roundToBits_mul hdvd hpos
    simp only [toSingle, Nat.shiftLeft_eq, Nat.one_mul]
    generalize roundToBits 24 u (2 ^ (unitExponent - singleUnitExponent)) = v at hround ⊢
    by_cases hsmall : v * 2 ^ (unitExponent - singleUnitExponent) < Nat.pow 2 (128 + unitExponent)
    · simp only [if_pos hsmall, hround]
    · simp only [if_neg hsmall]

-- in binary64, this integer lies in the middle between two numbers in single precision
example : singleOfInt 1152921573326323713 ≠ (ofInt 1152921573326323713).toSingle := by
  decide +kernel

end KitchenFlow.Binary64
