import KitchenFlow.Payload.Condition
import KitchenFlow.Proofs.Number.Values
import KitchenFlow.Proofs.Text.Bytes

/-!
# What the operators of a condition say together

The six operators of a condition are asked one at a time, but a flow that branches on one of them
relies on what the others would have said. Unequal is the opposite of equal for every value that is
there and not `null`, with one exception: of a number and a check value that names not-a-number no
operator holds, so neither of the two. The ordering operators are those of one order, by value or by
bytes, and where there is none, none of them holds.

    evaluate_ne_eq_not_iff   unequal is the opposite of equal, save beside not-a-number
    evaluate_coherent        less, greater and their opposites belong to one order
-/

namespace KitchenFlow

/-- A text stands for a value if it is read as a number of that value. -/
def Numeral.Denotes (s : String) (a : WithBot (WithTop ℚ)) : Prop :=
  ∃ x, Binary64.ofText? s = some x ∧ x.value? = some a

namespace Condition

variable {v : Json} {n : JsonNumber} {s checkValue : String} {op : Operator} {x : Binary64}

/-! ## Numbers -/

@[simp] theorem holdsOf_none (op : Operator) : holdsOf op none = false := rfl

@[simp] theorem holdsOf_some (op : Operator) (o : Ordering) :
    holdsOf op (some o) = op.holds o := rfl

/-- A number is compared with the number that the check value is read as. -/
theorem evaluate_number (h : Binary64.ofText? (Text.trim checkValue) = some x) :
    evaluate op (some (.number n)) checkValue = holdsOf op (Binary64.compare? n.toBinary64 x) := by
  simp only [evaluate, h]

/-- A number is only unequal to a check value that is not read as a number. -/
theorem evaluate_number_of_none (h : Binary64.ofText? (Text.trim checkValue) = none) :
    evaluate op (some (.number n)) checkValue = (op == .ne) := by
  simp only [evaluate, h]

/-! ## Equal and unequal -/

/-- A number is compared with not-a-number. -/
def MeetsNaN (v : Json) (checkValue : String) : Prop :=
  (∃ n, v = .number n) ∧ Numeral.NamesNaN (Text.trim checkValue)

/-- No operator holds of a number and not-a-number. -/
theorem evaluate_of_meetsNaN (h : MeetsNaN v checkValue) (op : Operator) :
    evaluate op (some v) checkValue = false := by
  obtain ⟨⟨n, rfl⟩, hs⟩ := h
  rw [evaluate_number (Binary64.ofText?_eq_nan.2 hs), Binary64.compare?_nan_right, holdsOf_none]

theorem evaluate_number_ne (hn : n.toBinary64 ≠ .nan)
    (h : ¬Numeral.NamesNaN (Text.trim checkValue)) :
    evaluate .ne (some (.number n)) checkValue = !evaluate .eq (some (.number n)) checkValue := by
  rcases hx : Binary64.ofText? (Text.trim checkValue) with - | x
  · rw [evaluate_number_of_none hx, evaluate_number_of_none hx]
    rfl
  · have hx' : x ≠ .nan := by
      rintro rfl
      exact h (Binary64.ofText?_eq_nan.1 hx)
    have hsome : Binary64.compare? n.toBinary64 x ≠ none := by
      rw [ne_eq, Binary64.compare?_eq_none_iff, not_or]
      exact ⟨hn, hx'⟩
    obtain ⟨o, ho⟩ := Option.ne_none_iff_exists'.1 hsome
    rw [evaluate_number hx, evaluate_number hx, ho, holdsOf_some, holdsOf_some]
    rfl

/-- Unequal is the opposite of equal, unless a number is compared with not-a-number; then no
operator holds. -/
theorem evaluate_ne_eq_not_iff (hv : v ≠ .null) (hn : ∀ n, v = .number n → n.toBinary64 ≠ .nan) :
    ((evaluate .ne (some v) checkValue = !evaluate .eq (some v) checkValue) ↔
      ¬MeetsNaN v checkValue) ∧
    (MeetsNaN v checkValue → ∀ op, evaluate op (some v) checkValue = false) := by
  refine ⟨⟨fun h hnan => ?_, fun h => ?_⟩, evaluate_of_meetsNaN⟩
  · rw [evaluate_of_meetsNaN hnan, evaluate_of_meetsNaN hnan] at h
    cases h
  · match v with
    | .null => exact (hv rfl).elim
    | .number n => exact evaluate_number_ne (hn n rfl) fun hs => h ⟨⟨n, rfl⟩, hs⟩
    | .bool b =>
      simp only [evaluate]
      cases truthOf? (Text.trim checkValue) <;> rfl
    | .string _ | .array _ | .object _ => rfl

/-- A number is neither equal nor unequal to not-a-number. -/
theorem evaluate_two_nan :
    evaluate .eq (some (.number (.int 2))) "nan" = false ∧
      evaluate .ne (some (.number (.int 2))) "nan" = false := by
  decide +kernel

/-- A number is unequal to a word that stands for no number. -/
theorem evaluate_ne_eq_not_two :
    Json.number (.int 2) ≠ .null ∧ (JsonNumber.int 2).toBinary64 ≠ .nan ∧
      ¬MeetsNaN (.number (.int 2)) " two " ∧
      evaluate .ne (some (.number (.int 2))) " two " =
        !evaluate .eq (some (.number (.int 2))) " two " := by
  have htwo : (JsonNumber.int 2).toBinary64 ≠ .nan := by decide +kernel
  have hword : ¬MeetsNaN (.number (.int 2)) " two " := by
    rintro ⟨-, h⟩
    have hnone : Binary64.ofText? (Text.trim " two ") = none := by decide +kernel
    rw [← Binary64.ofText?_eq_nan, hnone] at h
    cases h
  have hnull : Json.number (.int 2) ≠ .null := Json.noConfusion
  have hnumber : ∀ n, Json.number (.int 2) = .number n → n.toBinary64 ≠ .nan := by
    rintro _ ⟨⟩
    exact htwo
  exact ⟨hnull, htwo, hword, (evaluate_ne_eq_not_iff hnull hnumber).1.2 hword⟩

/-! ## Less and greater -/

/-- The ordering operators are those of one order, in which the value of the payload is less than
the check value, or greater, or neither. -/
structure Coherent (holds : Operator → Bool) (less greater : Prop) : Prop where
  lt_iff : holds .lt = true ↔ less
  gt_iff : holds .gt = true ↔ greater
  not_lt_gt : ¬(holds .lt = true ∧ holds .gt = true)
  le_eq : holds .le = !holds .gt
  ge_eq : holds .ge = !holds .lt

/-- Equality, too, is that of the order. -/
structure Trichotomous (holds : Operator → Bool) (less greater : Prop) : Prop
    extends Coherent holds less greater where
  one : [Operator.lt, .eq, .gt].countP holds = 1
  eq_eq : holds .eq = (holds .le && holds .ge)

/-- The values that have no order with a check value. -/
inductive Unordered (checkValue : String) : Json → Prop
  | null : Unordered checkValue .null
  | bool (b : Bool) : Unordered checkValue (.bool b)
  | number (n : JsonNumber) : Binary64.ofText? (Text.trim checkValue) = none →
    Unordered checkValue (.number n)
  | array (items : List Json) : Unordered checkValue (.array items)
  | object (fields : Fields) : Unordered checkValue (.object fields)

section Order

variable {α : Type*} [LinearOrder α] {a b : α} {holds : Operator → Bool}

theorem holds_lt_cmp : Operator.lt.holds (cmp a b) = true ↔ a < b := by
  rw [← cmp_eq_lt_iff]
  exact beq_iff_eq

theorem holds_gt_cmp : Operator.gt.holds (cmp a b) = true ↔ b < a := by
  rw [← cmp_eq_gt_iff]
  exact beq_iff_eq

/-- What follows the order of two things, except perhaps in equality, is coherent. -/
theorem coherent_cmp (h : ∀ op, op ≠ .eq → op ≠ .ne → holds op = op.holds (cmp a b)) :
    Coherent holds (a < b) (b < a) := by
  have hlt := h .lt nofun nofun
  have hgt := h .gt nofun nofun
  refine ⟨?_, ?_, ?_, ?_, ?_⟩
  · rw [hlt, holds_lt_cmp]
  · rw [hgt, holds_gt_cmp]
  · rw [hlt, hgt, holds_lt_cmp, holds_gt_cmp]
    rintro ⟨hab, hba⟩
    exact lt_asymm hab hba
  · rw [h .le nofun nofun, hgt]
    rfl
  · rw [h .ge nofun nofun, hlt]
    rfl

/-- What follows the order of two things is trichotomous. -/
theorem trichotomous_cmp (h : ∀ op, holds op = op.holds (cmp a b)) :
    Trichotomous holds (a < b) (b < a) := by
  obtain rfl : holds = fun op => op.holds (cmp a b) := funext h
  refine ⟨coherent_cmp fun _ _ _ => rfl, ?_, ?_⟩
  · generalize cmp a b = o
    cases o <;> rfl
  · generalize cmp a b = o
    cases o <;> rfl

end Order

variable {a b : WithBot (WithTop ℚ)}

/-- Whether an ordering operator holds of a text is read off the order of both texts. -/
theorem evaluate_string (heq : op ≠ .eq) (hne : op ≠ .ne) :
    evaluate op (some (.string s)) checkValue =
      holdsOf op (textOrder s (Text.trim checkValue)) := by
  match op with
  | .eq => exact (heq rfl).elim
  | .ne => exact (hne rfl).elim
  | .gt | .lt | .ge | .le => rfl

/-- Two texts that are both read as numbers are ordered by value. -/
theorem textOrder_of_denotes {t : String} (hs : Numeral.Denotes (Text.trim s) a)
    (ht : Numeral.Denotes t b) : textOrder s t = some (cmp a b) := by
  obtain ⟨x, hx, ha⟩ := hs
  obtain ⟨y, hy, hb⟩ := ht
  rw [textOrder, hx, hy]
  exact Binary64.compare?_eq_cmp ha hb

/-- Two texts that are not both read as numbers are ordered by their characters. -/
theorem textOrder_of_none {t : String}
    (h : Binary64.ofText? (Text.trim s) = none ∨ Binary64.ofText? t = none) :
    textOrder s t = some (cmp s t) := by
  unfold textOrder
  rw [cmp_eq_compare]
  rcases h with h | h
  · rw [h]
  · rw [h]
    cases Binary64.ofText? (Text.trim s) <;> rfl

/-- Of what is only compared for equality, no ordering operator holds. -/
theorem equality_eq_false (heq : op ≠ .eq) (hne : op ≠ .ne) (equal : Bool) :
    equality op equal = false := by
  match op with
  | .eq => exact (heq rfl).elim
  | .ne => exact (hne rfl).elim
  | .gt | .lt | .ge | .le => rfl

theorem evaluate_of_unordered (h : Unordered checkValue v) (heq : op ≠ .eq) (hne : op ≠ .ne) :
    evaluate op (some v) checkValue = false := by
  cases h with
  | null => rfl
  | bool b =>
    simp only [evaluate]
    split
    · exact equality_eq_false heq hne _
    · exact beq_false_of_ne hne
  | number n h =>
    rw [evaluate_number_of_none h]
    exact beq_false_of_ne hne
  | array | object => exact equality_eq_false heq hne _

/-- The ordering operators belong to one order: of two texts that are read as numbers, to that of
their values; of other texts, to that of their bytes; of a number and a text that is read as one, to
that of their values, with equality. Where there is no order, no ordering operator holds. -/
theorem evaluate_coherent (checkValue : String) :
    (∀ s a b, Numeral.Denotes (Text.trim s) a → Numeral.Denotes (Text.trim checkValue) b →
      Coherent (evaluate · (some (.string s)) checkValue) (a < b) (b < a)) ∧
    (∀ s, Binary64.ofText? (Text.trim s) = none ∨ Binary64.ofText? (Text.trim checkValue) = none →
      Coherent (evaluate · (some (.string s)) checkValue)
        (s.toUTF8.toList < (Text.trim checkValue).toUTF8.toList)
        ((Text.trim checkValue).toUTF8.toList < s.toUTF8.toList)) ∧
    (∀ n a b, n.toBinary64.value? = some a → Numeral.Denotes (Text.trim checkValue) b →
      Trichotomous (evaluate · (some (.number n)) checkValue) (a < b) (b < a)) ∧
    (∀ v, Unordered checkValue v → ∀ op, op ≠ .eq → op ≠ .ne →
      evaluate op (some v) checkValue = false) := by
  refine ⟨fun s a b ha hb => ?_, fun s h => ?_, fun n a b ha ⟨x, hx, hb⟩ => ?_,
    fun v hv op => evaluate_of_unordered hv⟩
  · refine coherent_cmp fun op heq hne => ?_
    rw [evaluate_string heq hne, textOrder_of_denotes ha hb, holdsOf_some]
  · rw [← Text.lt_iff_bytes, ← Text.lt_iff_bytes]
    refine coherent_cmp fun op heq hne => ?_
    rw [evaluate_string heq hne, textOrder_of_none h, holdsOf_some]
  · refine trichotomous_cmp fun op => ?_
    rw [evaluate_number hx, Binary64.compare?_eq_cmp ha hb, holdsOf_some]

/-- Ten is more than nine, although it stands before it in the order of bytes; an apple stands
before a banana; three is as much as three; two and a word have no order. -/
theorem evaluate_coherent_pantry :
    evaluate .gt (some (.string "10")) " 9 " = true ∧
      evaluate .lt (some (.string "apple")) "banana" = true ∧
      evaluate .lt (some (.number (.int 3))) " 3 " = false ∧
      evaluate .le (some (.number (.int 2))) "two" = false := by
  have hten : Numeral.Denotes (Text.trim "10") (((10 : Nat) : ℚ) : WithTop ℚ) :=
    ⟨_, by decide +kernel, Binary64.value?_natural 10⟩
  have hnine : Numeral.Denotes (Text.trim " 9 ") (((9 : Nat) : ℚ) : WithTop ℚ) :=
    ⟨_, by decide +kernel, Binary64.value?_natural 9⟩
  have hthree : Numeral.Denotes (Text.trim " 3 ") (((3 : Nat) : ℚ) : WithTop ℚ) :=
    ⟨_, by decide +kernel, Binary64.value?_natural 3⟩
  have hint : (JsonNumber.int 3).toBinary64 = .finite false (3 * 2 ^ Binary64.unitExponent) := by
    decide +kernel
  have hless : (((9 : Nat) : ℚ) : WithTop ℚ) < (((10 : Nat) : ℚ) : WithTop ℚ) :=
    WithTop.coe_lt_coe.2 (Nat.cast_lt.2 (by decide))
  have happle : "apple" < Text.trim "banana" := by decide
  refine ⟨?_, ?_, ?_, ?_⟩
  · exact ((evaluate_coherent " 9 ").1 "10" _ _ hten hnine).gt_iff.2 (WithBot.coe_lt_coe.2 hless)
  · have hfruit := (evaluate_coherent "banana").2.1 "apple" (.inl (by decide))
    exact hfruit.lt_iff.2 (Text.lt_iff_bytes.1 happle)
  · have hequal := (evaluate_coherent " 3 ").2.2.1 (.int 3) _ _
      (by rw [hint]; exact Binary64.value?_natural 3) hthree
    exact Bool.eq_false_iff.2 fun h => lt_irrefl _ (hequal.lt_iff.1 h)
  · exact (evaluate_coherent "two").2.2.2 _ (.number _ (by decide)) .le nofun nofun

end Condition
end KitchenFlow
