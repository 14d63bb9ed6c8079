/-!
# Binary64 numbers, exactly

A finite binary64 number is a whole multiple of `2⁻¹⁰⁷⁴`, the least positive one. So a finite
value is kept as a sign and a count of such *units*, and comparing two numbers is comparing two
integers. Arithmetic appears only where a number is made: a ratio of naturals is rounded to the
nearest representable count (`roundUnits`), a tie going to the even significand.

    units = significand · 2 ^ shift        significand < 2 ^ 53

The value of `finite s u` is `± u · 2⁻¹⁰⁷⁴`; both zeros are kept apart, as printing shows them.
-/

namespace KitchenFlow

/-- A binary64 number. `units` counts multiples of the least positive number. -/
inductive Binary64 where
  | nan
  | infinite (negative : Bool)
  | finite (negative : Bool) (units : Nat)
deriving DecidableEq, Repr, Inhabited

namespace Binary64

/-- How many significand bits a number holds. -/
def precision : Nat := 53

/-- The binary exponent of one unit, negated: a unit is `2 ^ (-unitExponent)`. -/
def unitExponent : Nat := 1074

/-- The first count of units that is too large for a finite number: that of `2 ^ 1024`. -/
def overflowUnits : Nat := Nat.pow 2 (1024 + unitExponent)

/-- The number zero, with a plus sign. -/
def zero : Binary64 := .finite false 0

def isFinite : Binary64 → Bool
  | .finite .. => true
  | _ => false

/-- The same magnitude with the other sign; not-a-number stays what it is. -/
def neg : Binary64 → Binary64
  | .nan => .nan
  | .infinite s => .infinite !s
  | .finite s u => .finite (!s) u

/-! ### Order

Numbers are ordered by value: the two zeros are equal, and not-a-number is neither less than,
equal to nor greater than anything. -/

/-- The signed count of units of a finite number. -/
def signedUnits (negative : Bool) (units : Nat) : Int :=
  if negative then -(units : Int) else units

/-- The order of two numbers by value, if both are numbers. -/
def compare? : Binary64 → Binary64 → Option Ordering
  | .nan, _ => none
  | _, .nan => none
  | .infinite s, .infinite t =>
    some (if s = t then .eq else if s then .lt else .gt)
  | .infinite s, .finite .. => some (if s then .lt else .gt)
  | .finite .., .infinite t => some (if t then .gt else .lt)
  | .finite s u, .finite t v => some (compare (signedUnits s u) (signedUnits t v))

/-- `x ≤ y` by value; false if either is not a number. -/
def ble (x y : Binary64) : Bool :=
  match compare? x y with
  | some .lt | some .eq => true
  | _ => false

/-- `x < y` by value; false if either is not a number. -/
def blt (x y : Binary64) : Bool := compare? x y == some .lt

/-! ### Rounding -/

/-- The integer nearest to `num / den`; of two equally near ones, the even one. -/
def roundDiv (num den : Nat) : Nat :=
  let q := num / den
  let r := num % den
  if 2 * r < den then q
  else if den < 2 * r then q + 1
  else if q % 2 = 0 then q else q + 1

/-- How many low bits a count near `num / den` has to give up to keep `bits` significant ones. -/
def surplusBits (bits num den : Nat) : Nat := (num / den).log2 + 1 - bits

/-- `num / den` rounded to the nearest count with at most `bits` significant bits. -/
def roundToBits (bits num den : Nat) : Nat :=
  let s := surplusBits bits num den
  roundDiv num (den <<< s) <<< s

/-- The count of units nearest to `num / den` units that a binary64 number can hold. -/
def roundUnits (num den : Nat) : Nat := roundToBits precision num den

/-- The number with `units` units, or infinity if they are too many. -/
def ofUnits (negative : Bool) (units : Nat) : Binary64 :=
  if units < overflowUnits then .finite negative units else .infinite negative

/-- The binary64 number nearest to `± num / den`. -/
def ofRatio (negative : Bool) (num den : Nat) : Binary64 :=
  ofUnits negative (roundUnits (num <<< unitExponent) den)

/-- The binary64 number nearest to an integer. -/
def ofInt (n : Int) : Binary64 := ofRatio (decide (n < 0)) n.natAbs 1

/-- The product, rounded to nearest. A product of an infinity and a zero is not a number. -/
def mul : Binary64 → Binary64 → Binary64
  | .nan, _ => .nan
  | _, .nan => .nan
  | .infinite s, .infinite t => .infinite (s != t)
  | .infinite s, .finite t v => if v = 0 then .nan else .infinite (s != t)
  | .finite s u, .infinite t => if u = 0 then .nan else .infinite (s != t)
  | .finite s u, .finite t v => ofUnits (s != t) (roundUnits (u * v) (1 <<< unitExponent))

/-- The quotient of two finite numbers, rounded to nearest; the divisor is expected to be
positive. -/
def divFinite : Binary64 → Binary64 → Binary64
  | .finite s u, .finite t v => ofRatio (s != t) u v
  | _, _ => .nan

/-! ### Single precision -/

/-- The binary exponent of the least positive single-precision number, negated. -/
def singleUnitExponent : Nat := 149

/-- The nearest single-precision number, as the binary64 number of the same value. Magnitudes of
`2 ^ 128` and more become infinite. -/
def toSingle : Binary64 → Binary64
  | .finite s u =>
    let shift := unitExponent - singleUnitExponent
    let v := roundToBits 24 u (1 <<< shift) <<< shift
    if v < Nat.pow 2 (128 + unitExponent) then .finite s v else .infinite s
  | x => x

/-- The single-precision number nearest to an integer. Its units are counted exactly before they are
rounded, as rounding them to binary64 first could take them to the middle between two numbers. -/
def singleOfInt (n : Int) : Binary64 :=
  (finite (decide (n < 0)) (n.natAbs <<< unitExponent)).toSingle

/-! ### Small facts -/

@[simp] theorem neg_neg (x : Binary64) : x.neg.neg = x := by
  cases x <;> simp [neg]

@[simp] theorem compare?_nan_left (x : Binary64) : compare? .nan x = none := by
  cases x <;> rfl

@[simp] theorem compare?_nan_right (x : Binary64) : compare? x .nan = none := by
  cases x <;> rfl

/-- Two numbers compare exactly when neither is not-a-number. -/
theorem compare?_eq_none_iff {x y : Binary64} :
    compare? x y = none ↔ x = .nan ∨ y = .nan := by
  cases x <;> cases y <;> simp [compare?]

end Binary64
end KitchenFlow
