import KitchenFlow.Proofs.Number

/-!
# Numbers that there is room for

A finite number of the format is a count of units below the first that is too large, with no more
significant bits than fit. Rounding leads to such a count, so that whatever arithmetic comes to is
one of these numbers or an infinity, and division by a number that is not below one never comes to
an infinity.

    Binary64.Held                   the finite numbers that there is room for
    Binary64.held_of_mul            finite products are
    Binary64.exists_divFinite_eq    quotients by what is not below one are
-/

namespace KitchenFlow.Binary64

/-- A finite number that there is room for. -/
inductive Held : Binary64 → Prop
  | finite (negative : Bool) {units : Nat} : units < overflowUnits →
    2 ^ (units.log2 + 1 - precision) ∣ units → Held (.finite negative units)

variable {x y : Binary64} {negative s t : Bool} {units num den u v k : Nat}

theorem isFinite_iff : x.isFinite = true ↔ ∃ s u, x = .finite s u := by
  cases x <;> simp [isFinite]

theorem overflowUnits_eq : overflowUnits = 2 ^ (1024 + unitExponent) := by
  unfold overflowUnits
  generalize 1024 + unitExponent = n
  exact Nat.pow_eq

theorem Held.neg (h : x.Held) : x.neg.Held := by
  cases h with
  | finite negative hlt hdvd => exact .finite (!negative) hlt hdvd

theorem held_zero : zero.Held := by
  refine .finite false ?_ (Nat.dvd_zero _)
  rw [overflowUnits_eq]
  exact Nat.two_pow_pos _

/-! ## Rounding -/

theorem ofUnits_of_lt (negative : Bool) (h : units < overflowUnits) :
    ofUnits negative units = .finite negative units := if_pos h

theorem lt_of_ofUnits_eq (h : ofUnits negative units = .finite s u) : units < overflowUnits := by
  refine Decidable.byContradiction fun hlt => ?_
  rw [ofUnits, if_neg hlt] at h
  cases h

theorem held_roundUnits (negative : Bool) (h : roundUnits num den < overflowUnits) :
    (finite negative (roundUnits num den)).Held :=
  .finite negative h (dvd_roundToBits num den (by decide))

/-- What is below a power of two is not rounded above it. -/
theorem roundUnits_le (hk : 0 < k) (h : num / den < 2 ^ k) : roundUnits num den ≤ 2 ^ k := by
  have hlog : (num / den).log2 < k := by
    rcases Nat.eq_zero_or_pos (num / den) with hzero | hpos
    · rw [hzero]
      exact hk
    · exact (Nat.log2_lt (Nat.ne_of_gt hpos)).2 h
  exact Nat.le_trans (roundToBits_le precision num den) (Nat.pow_le_pow_right (by decide) hlog)

theorem lt_overflowUnits (hk : k < 1024 + unitExponent) (h : units ≤ 2 ^ k) :
    units < overflowUnits := by
  rw [overflowUnits_eq]
  exact Nat.lt_of_le_of_lt h (Nat.pow_lt_pow_right (by decide) hk)

/-! ## Products -/

/-- A finite product is a number that there is room for. -/
theorem held_of_mul (h : (finite s u).mul (finite t v) = .finite negative units) :
    (finite negative units).Held := by
  rw [mul] at h
  have hlt := lt_of_ofUnits_eq h
  rw [ofUnits_of_lt _ hlt] at h
  rw [← h]
  exact held_roundUnits _ hlt

/-- Lesser factors make a lesser product. -/
theorem exists_mul_eq_of_le {negative' : Bool} {u' v' w : Nat} (hu : u ≤ u') (hv : v ≤ v')
    (h : (finite s u').mul (finite t v') = .finite negative' w) :
    ∃ w', (finite s u).mul (finite t v) = .finite (s != t) w' := by
  rw [mul] at h
  have hlt := lt_of_ofUnits_eq h
  have hle : roundUnits (u * v) (1 <<< unitExponent) ≤ roundUnits (u' * v') (1 <<< unitExponent) :=
    roundToBits_mono (by decide) (Nat.mul_le_mul hu hv) _
  exact ⟨_, ofUnits_of_lt _ (Nat.lt_of_le_of_lt hle hlt)⟩

/-! ## Quotients -/

/-- A quotient by a number that is not below one is a number that there is room for, and not above a
power of two that the dividend is below. -/
theorem exists_divFinite_eq (hk : 0 < k) (hroom : k < 1024 + unitExponent) (hu : u < 2 ^ k)
    (hv : 2 ^ unitExponent ≤ v) :
    ∃ w ≤ 2 ^ k, (finite s u).divFinite (finite t v) = .finite (s != t) w ∧
      (finite (s != t) w).Held := by
  have hquotient : (u <<< unitExponent) / v < 2 ^ k := by
    refine Nat.lt_of_le_of_lt (Nat.div_le_of_le_mul ?_) hu
    rw [Nat.shiftLeft_eq, Nat.mul_comm]
    exact Nat.mul_le_mul_right u hv
  have hle := roundUnits_le hk hquotient
  have hlt := lt_overflowUnits hroom hle
  refine ⟨_, hle, ?_, held_roundUnits _ hlt⟩
  rw [divFinite, ofRatio, ofUnits_of_lt _ hlt]

/-! ## Natural numbers -/

/-- The units of the number nearest to a natural number. -/
def unitsOf (n : Nat) : Nat := roundUnits (n <<< unitExponent) 1

theorem unitsOf_mono {m n : Nat} (h : m ≤ n) : unitsOf m ≤ unitsOf n := roundUnits_mono h

theorem unitsOf_le {n : Nat} (h : n < 2 ^ k) : unitsOf n ≤ 2 ^ (k + unitExponent) := by
  refine roundUnits_le (Nat.add_pos_right k (by decide)) ?_
  rw [Nat.div_one, Nat.shiftLeft_eq, Nat.pow_add]
  exact Nat.mul_lt_mul_of_pos_right h (Nat.two_pow_pos _)

theorem ofInt_natCast {n : Nat} (h : unitsOf n < overflowUnits) :
    ofInt n = .finite false (unitsOf n) := by
  have hsign : decide ((n : Int) < 0) = false := decide_eq_false (by omega)
  rw [ofInt, hsign, Int.natAbs_natCast]
  exact ofUnits_of_lt _ h

end KitchenFlow.Binary64
