import KitchenFlow.Time.Timestamp
import Mathlib.Algebra.GroupWithZero.Nat

/-!
# Digits

A natural number is written with decimal digits, perhaps after some zeros, and reading the digits
gives the number back:

    value_toDigits       the digits of a number have its value
    value_padded         so they have after zeros
    value_lt             n digits stand for a number below 10 ^ n
-/

namespace KitchenFlow

namespace Numeral

variable {ds : List Char}

theorem isDigit_eq (c : Char) : isDigit c = c.isDigit := by
  rw [Bool.eq_iff_iff]
  simp only [isDigit, Char.isDigit, Bool.and_eq_true, decide_eq_true_eq]
  rfl

theorem value_eq_ofDigitChars (ds : List Char) : value ds = Nat.ofDigitChars 10 ds 0 := rfl

@[simp] theorem value_nil : value [] = 0 := rfl

theorem value_append (ds es : List Char) :
    value (ds ++ es) = value ds * 10 ^ es.length + value es := by
  rw [value_eq_ofDigitChars, Nat.ofDigitChars_append, Nat.ofDigitChars_eq_ofDigitChars_zero,
    Nat.mul_comm]
  rfl

theorem value_cons (c : Char) (ds : List Char) :
    value (c :: ds) = digitValue c * 10 ^ ds.length + value ds := by
  have h := value_append [c] ds
  simpa [value] using h

theorem value_toDigits (n : Nat) : value (Nat.toDigits 10 n) = n := Nat.ofDigitChars_ten_toDigits

theorem value_replicate_append (k : Nat) (ds : List Char) :
    value (List.replicate k '0' ++ ds) = value ds := by
  rw [value_append, value_eq_ofDigitChars (List.replicate _ _), Nat.ofDigitChars_replicate_zero]
  simp

theorem digits?_eq_some_iff {n : Nat} :
    digits? ds = some n ↔ ds ≠ [] ∧ (∀ c ∈ ds, isDigit c = true) ∧ value ds = n := by
  unfold digits?
  split
  · next h =>
    rw [Bool.or_eq_true, List.isEmpty_iff, Bool.not_eq_true', ← Bool.not_eq_true,
      List.all_eq_true] at h
    simp only [reduceCtorEq, false_iff, not_and]
    intro hne hall
    exact (h.elim hne fun h => h hall).elim
  · next h =>
    rw [Bool.or_eq_true, List.isEmpty_iff, Bool.not_eq_true', ← Bool.not_eq_true,
      List.all_eq_true, not_or, not_not] at h
    rw [Option.some.injEq]
    exact ⟨fun hn => ⟨h.1, h.2, hn⟩, fun hn => hn.2.2⟩

/-- A text spells a natural number if it consists of digits, with at most a plus sign before
them. -/
def Spells (s : String) (n : Nat) : Prop :=
  ∃ sign ∈ ["", "+"], ∃ ds, s = sign ++ String.ofList ds ∧ ds ≠ [] ∧
    (∀ c ∈ ds, isDigit c = true) ∧ value ds = n

/-- What is read as a natural number spells one that is small enough. -/
theorem nat?_eq_some_iff {bound n : Nat} {s : String} :
    nat? bound s = some n ↔ Spells s n ∧ n < bound := by
  have hread (cs : List Char) :
      (digits? cs >>= fun m => if m < bound then some m else none) = some n ↔
        digits? cs = some n ∧ n < bound := by
    constructor
    · intro h
      obtain ⟨m, hm, hif⟩ := Option.bind_eq_some_iff.1 h
      split at hif
      · next hlt =>
        cases hif
        exact ⟨hm, hlt⟩
      · cases hif
    · rintro ⟨hn, hlt⟩
      rw [hn]
      exact if_pos hlt
  constructor
  · intro h
    unfold nat? at h
    dsimp only at h
    split at h
    · next rest hs =>
      obtain ⟨hdigits, hlt⟩ := (hread rest).1 h
      refine ⟨⟨"+", by simp, rest, String.toList_injective ?_, digits?_eq_some_iff.1 hdigits⟩, hlt⟩
      rw [hs, String.toList_append, String.toList_ofList (l := rest)]
      rfl
    · obtain ⟨hdigits, hlt⟩ := (hread s.toList).1 h
      refine ⟨⟨"", by simp, s.toList, ?_, digits?_eq_some_iff.1 hdigits⟩, hlt⟩
      rw [String.empty_append, String.ofList_toList]
  · rintro ⟨⟨sign, hsign, ds, rfl, hds⟩, hlt⟩
    have hdigits := digits?_eq_some_iff.2 hds
    simp only [List.mem_cons, List.not_mem_nil, or_false] at hsign
    unfold nat?
    dsimp only
    rw [String.toList_append, String.toList_ofList (l := ds)]
    rcases hsign with rfl | rfl
    · rw [String.toList_empty, List.nil_append]
      split
      · exact absurd (hds.2.1 '+' List.mem_cons_self) (by decide)
      · exact (hread ds).2 ⟨hdigits, hlt⟩
    · exact (hread ds).2 ⟨hdigits, hlt⟩

theorem isDigit_of_mem_toDigits {n : Nat} {c : Char} (h : c ∈ Nat.toDigits 10 n) :
    isDigit c = true := by
  rw [isDigit_eq]
  exact Nat.isDigit_of_mem_toDigits (by decide) (by decide) h

theorem digitValue_lt {c : Char} (h : isDigit c = true) : digitValue c < 10 := by
  simp only [isDigit, Bool.and_eq_true, decide_eq_true_eq] at h
  have hle : c.toNat ≤ '9'.toNat := h.2
  have h9 : '9'.toNat = 57 := rfl
  have h0 : '0'.toNat = 48 := rfl
  rw [digitValue]
  omega

theorem value_lt (h : ∀ c ∈ ds, isDigit c = true) : value ds < 10 ^ ds.length := by
  induction ds with
  | nil => simp
  | cons c ds ih =>
    obtain ⟨hc, hds⟩ := List.forall_mem_cons.1 h
    have hvalue := ih hds
    have hdigit := Nat.mul_le_mul_right (10 ^ ds.length) (Nat.le_of_lt_succ (digitValue_lt hc))
    rw [value_cons, List.length_cons, Nat.pow_succ]
    omega

end Numeral

namespace Timestamp

variable {width n : Nat}

theorem isDigit_of_mem_padded {c : Char} (h : c ∈ padded width n) :
    Numeral.isDigit c = true := by
  rcases List.mem_append.1 h with h | h
  · rw [List.eq_of_mem_replicate h]
    rfl
  · exact Numeral.isDigit_of_mem_toDigits h

theorem value_padded (width n : Nat) : Numeral.value (padded width n) = n := by
  rw [padded, Numeral.value_replicate_append, Numeral.value_toDigits]

theorem length_padded (hwidth : 0 < width) (h : n < 10 ^ width) :
    (padded width n).length = width := by
  have hlength := (Nat.length_toDigits_le_iff (by decide) hwidth).2 h
  rw [padded, List.length_append, List.length_replicate]
  omega

theorem padded_ne_nil (width n : Nat) : padded width n ≠ [] := by simp [padded]

end Timestamp
end KitchenFlow
