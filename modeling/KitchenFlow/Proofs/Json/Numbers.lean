import KitchenFlow.Proofs.Json.Reading
import KitchenFlow.Proofs.Number.Shortest

/-!
# Numbers that are read again

A number in a text is read in two steps: digits are collected as long as they fit into 64 bits, and
what was collected is scaled by a power of ten. So a number in a text may be too large to be read
although the nearest number that there is room for is not. This never happens to a number that was
written: its shortest digits stay below the middle between the largest number but one and the
largest, up to which scaling succeeds; and the largest number itself is read, as can be computed.

    JsonNumber.Held                 numbers that there is room for
    Cursor.exists_scale             what can be scaled
    Cursor.held_of_number           what is read is a number that there is room for
    JsonNumber.Held.exists_reread   a number that there is room for is read again
-/

namespace KitchenFlow

open Binary64 (greatestUnits middle overflowUnits shortest unitExponent unitsOf)

/-- A number that there is room for: an integer of 64 bits, with a sign or without one, or a
binary64 number. -/
inductive JsonNumber.Held : JsonNumber → Prop
  | int {n : Int} : -2 ^ 63 ≤ n → n < 2 ^ 64 → Held (.int n)
  | float {x : Binary64} : x.Held → Held (.float x)

namespace Cursor

variable {digits start n : Nat} {e : Int} {x : Binary64} {ds : List Char}

/-! ## Scaling -/

/-- The digits that are collected are a number of 64 bits, which there is room for. -/
theorem ofInt_digits (h : digits ≤ digitsLimit) :
    Binary64.ofInt digits = .finite false (unitsOf digits) ∧
      unitsOf digits ≤ 2 ^ (64 + unitExponent) := by
  have hpow : digitsLimit < 2 ^ 64 := by decide
  have hle := Binary64.unitsOf_le (Nat.lt_of_le_of_lt h hpow)
  exact ⟨Binary64.ofInt_natCast (Binary64.lt_overflowUnits (by decide) hle), hle⟩

/-- Powers of ten up to one that there is room for are numbers that are not below one. -/
theorem power_eq_of_le {m : Nat} (hm : unitsOf (10 ^ m) < overflowUnits) (h : n ≤ m) :
    power n = .finite false (unitsOf (10 ^ n)) ∧ 2 ^ unitExponent ≤ unitsOf (10 ^ n) := by
  have hone : 2 ^ unitExponent ≤ unitsOf 1 := by decide +kernel
  have hle := Binary64.unitsOf_mono (Nat.pow_le_pow_right (by decide : 0 < 10) h)
  refine ⟨?_, Nat.le_trans hone (Binary64.unitsOf_mono (Nat.pow_pos (by decide)))⟩
  rw [power, Binary64.ofRatio]
  exact Binary64.ofUnits_of_lt false (Nat.lt_of_le_of_lt hle hm)

theorem power_eq (h : n ≤ 308) :
    power n = .finite false (unitsOf (10 ^ n)) ∧ 2 ^ unitExponent ≤ unitsOf (10 ^ n) :=
  power_eq_of_le (by decide +kernel) h

/-- The most digits that stay below the limit are scaled to a finite number. -/
theorem isFinite_most : ∀ k < 21,
    ((Binary64.ofInt (min digitsLimit (middle / Nat.pow 10 (288 + k)) : Nat)).mul
      (power (288 + k))).isFinite = true := by
  decide +kernel

theorem exists_mul_power (hd : digits ≤ digitsLimit) (hn : n ≤ 308)
    (h : digits * 10 ^ n ≤ middle) :
    ∃ w, (Binary64.ofInt digits).mul (power n) = .finite false w := by
  obtain ⟨k, hk, hpow, hmost⟩ : ∃ k < 21, n ≤ 288 + k ∧
      digits ≤ min digitsLimit (middle / Nat.pow 10 (288 + k)) := by
    rcases Nat.le_total n 288 with hsmall | hlarge
    · have hroom : digitsLimit ≤ middle / Nat.pow 10 (288 + 0) := by decide +kernel
      exact ⟨0, by decide, hsmall, le_min hd (Nat.le_trans hd hroom)⟩
    · refine ⟨n - 288, by omega, by omega, le_min hd ?_⟩
      rw [Nat.add_sub_cancel' hlarge]
      exact (Nat.le_div_iff_mul_le (Nat.pow_pos (by decide))).2 h
  have hfinite := isFinite_most k hk
  rw [(ofInt_digits (Nat.min_le_left _ _)).1, (power_eq (by omega)).1] at hfinite
  obtain ⟨_, _, hw⟩ := Binary64.isFinite_iff.1 hfinite
  rw [(ofInt_digits hd).1, (power_eq hn).1]
  exact Binary64.exists_mul_eq_of_le (Binary64.unitsOf_mono hmost)
    (Binary64.unitsOf_mono (Nat.pow_le_pow_right (by decide) hpow)) hw

/-- What stays below a limit is not scaled by a power beyond it. -/
theorem lt_of_mul_pow_le {m limit : Nat} (hm : limit < 10 ^ m) (hd : digits ≠ 0)
    (h : digits * 10 ^ n ≤ limit) : n < m := by
  by_contra hle
  have hpow : 10 ^ m ≤ 10 ^ n := Nat.pow_le_pow_right (by decide) (Nat.le_of_not_lt hle)
  have hone : 1 * 10 ^ n ≤ digits * 10 ^ n := Nat.mul_le_mul_right _ (Nat.pos_of_ne_zero hd)
  omega

/-- Digits that stay below the limit can be scaled. -/
theorem exists_scale (hd : digits ≤ digitsLimit) (h : digits * 10 ^ e.toNat ≤ middle) :
    ∃ x, scale? digits e = some x := by
  unfold scale?
  dsimp only
  split_ifs with hlarge hzero hnonneg hone htwo
  · exact ⟨_, rfl⟩
  · have hlt : e.toNat < 309 := lt_of_mul_pow_le (by decide +kernel) hzero h
    omega
  · obtain ⟨w, hw⟩ := exists_mul_power hd (by omega) h
    rw [hw]
    exact ⟨_, rfl⟩
  · exact ⟨_, rfl⟩
  · exact ⟨_, rfl⟩
  · exact ⟨_, rfl⟩

/-- Collected digits as a number that there is room for. -/
theorem held_ofInt (hd : digits ≤ digitsLimit) : (Binary64.ofInt digits).Held := by
  obtain ⟨hdigits, hle⟩ := ofInt_digits hd
  rw [hdigits]
  exact Binary64.held_roundUnits false (Binary64.lt_overflowUnits (by decide) hle)

/-- What is scaled is a number that there is room for. -/
theorem held_of_scale (hd : digits ≤ digitsLimit) (h : scale? digits e = some x) : x.Held := by
  obtain ⟨hdigits, hle⟩ := ofInt_digits hd
  have hlt : unitsOf digits < 2 ^ (65 + unitExponent) :=
    Nat.lt_of_le_of_lt hle (Nat.pow_lt_pow_right (by decide) (by decide))
  have hquotient {n : Nat} (hn : n ≤ 308) := Binary64.exists_divFinite_eq (s := false) (t := false)
    (k := 65 + unitExponent) (by decide) (by decide) hlt (power_eq hn).2
  unfold scale? at h
  dsimp only at h
  rw [hdigits] at h
  split_ifs at h with hlarge hzero hnonneg hone htwo
  · rw [← Option.some.inj h, ← hdigits]
    exact held_ofInt hd
  · rw [(power_eq (by omega)).1] at h
    split at h
    · next hmul =>
      rw [← Option.some.inj h]
      exact Binary64.held_of_mul hmul
    · cases h
  · obtain ⟨w, -, hw, hheld⟩ := hquotient (n := (-e).toNat) (by omega)
    rw [← Option.some.inj h, (power_eq (by omega)).1, hw]
    exact hheld
  · obtain ⟨w, hwle, hw, -⟩ := hquotient (n := 308) (by decide)
    have hwlt : w < 2 ^ (66 + unitExponent) :=
      Nat.lt_of_le_of_lt hwle (Nat.pow_lt_pow_right (by decide) (by decide))
    obtain ⟨v, -, hv, hheld⟩ := Binary64.exists_divFinite_eq (s := false != false) (t := false)
      (by decide) (by decide) hwlt (power_eq (n := (-e - 308).toNat) (by omega)).2
    rw [← Option.some.inj h, (power_eq (by decide)).1, hw, (power_eq (by omega)).1, hv]
    exact hheld
  · rw [← Option.some.inj h]
    exact Binary64.held_zero

/-! ## Digits that are collected -/

/-- What is collected are the first digits. -/
theorem exists_collect (start : Nat) (ds : List Char) :
    ∃ j ≤ ds.length, collect start ds =
      ((ds.take j).foldl (fun n d => 10 * n + Numeral.digitValue d) start, j) := by
  induction ds generalizing start with
  | nil => exact ⟨0, le_rfl, rfl⟩
  | cons d ds ih =>
    rw [collect]
    dsimp only
    split
    · exact ⟨0, Nat.zero_le _, rfl⟩
    · obtain ⟨j, hj, hcollect⟩ := ih (10 * start + Numeral.digitValue d)
      rw [hcollect]
      exact ⟨j + 1, Nat.succ_le_succ hj, rfl⟩

theorem collect_le (h : start ≤ digitsLimit) (ds : List Char) :
    (collect start ds).1 ≤ digitsLimit := by
  induction ds generalizing start with
  | nil => exact h
  | cons d ds ih =>
    rw [collect]
    dsimp only
    split
    · exact h
    · next hd => exact ih (Nat.le_of_not_lt hd)

/-- An exponent that is small enough is taken as it is. -/
theorem exponentOverflow?_eq_none (h : Numeral.value ds ≤ exponentLimit) :
    exponentOverflow? ds = none := by
  have hgo (taken n : Nat) (ds : List Char)
      (h : ds.foldl (fun n d => 10 * n + Numeral.digitValue d) n ≤ exponentLimit) :
      exponentOverflow?.go taken n ds = none := by
    induction ds generalizing taken n with
    | nil => rfl
    | cons d ds ih =>
      rw [exponentOverflow?.go, if_neg (Nat.not_lt.2 (le_trans (le_foldl_digits ds _) h))]
      exact ih _ _ h
  exact hgo 0 0 ds h

/-! ## The value of a number -/

variable {p : NumberParts} {negative minus : Bool} {stop : Position} {m : JsonNumber}

/-- The digits of a number that are collected, and how many of them stand behind the point. -/
def collected (p : NumberParts) : Nat × Nat :=
  match p.fraction with
  | none => ((collect 0 p.whole).1, 0)
  | some ds => collect (collect 0 p.whole).1 ds

/-- By how many places the collected digits have to be shifted, but for the exponent. -/
def shift (p : NumberParts) : Int :=
  (p.whole.length - (collect 0 p.whole).2 : Nat) - ((collected p).2 : Int)

theorem collected_le (p : NumberParts) : (collected p).1 ≤ digitsLimit := by
  have hwhole : (collect 0 p.whole).1 ≤ digitsLimit := collect_le (Nat.zero_le _) p.whole
  unfold collected
  cases p.fraction with
  | none => exact hwhole
  | some ds => exact collect_le hwhole ds

theorem shift_le (p : NumberParts) : shift p ≤ p.whole.length := by
  unfold shift
  omega

/-- The value of the collected digits with an exponent. -/
def scaled (negative : Bool) (p : NumberParts) (stop : Position) (e : Int) :
    Except Fault JsonNumber :=
  match scale? (collected p).1 e with
  | some x => .ok (.float (if negative then x.neg else x))
  | none => .error ⟨.numberOutOfRange, stop⟩

/-- A number of digits only, all of which are collected. -/
def IsWhole (p : NumberParts) : Prop :=
  (collect 0 p.whole).2 = p.whole.length ∧ p.fraction.isNone ∧ p.exponent.isNone

theorem numberValue_of_not_whole (h : ¬IsWhole p) :
    numberValue negative p stop =
      match p.exponent with
      | none => scaled negative p stop (shift p)
      | some (minus, ds) =>
        match exponentOverflow? ds with
        | some count =>
          if (collected p).1 ≠ 0 ∧ !minus then
            .error ⟨.numberOutOfRange,
              ⟨p.exponentStart.line, p.exponentStart.column + count⟩⟩
          else .ok (.float (if negative then Binary64.zero.neg else .zero))
        | none =>
          scaled negative p stop (shift p + if minus then -(Numeral.value ds : Int)
            else Numeral.value ds) := by
  obtain ⟨whole, fraction, exponent, start⟩ := p
  unfold numberValue scaled shift collected
  cases fraction with
  | none => exact if_neg h
  | some ds => exact if_neg h

theorem held_of_scaled (h : scaled negative p stop e = .ok m) : m.Held := by
  unfold scaled at h
  split at h
  · next x hx =>
    cases h
    have hheld := held_of_scale (collected_le p) hx
    cases negative with
    | true => exact .float hheld.neg
    | false => exact .float hheld
  · cases h

/-- What a number is read as is a number that there is room for. -/
theorem held_of_numberValue (h : numberValue negative p stop = .ok m) : m.Held := by
  by_cases hwhole : IsWhole p
  · have hle : (collect 0 p.whole).1 ≤ 18446744073709551615 := collect_le (Nat.zero_le _) p.whole
    unfold IsWhole at hwhole
    unfold numberValue at h
    dsimp only at h
    rw [if_pos hwhole] at h
    have hpow : Nat.pow 2 63 = 9223372036854775808 := by decide
    rw [hpow] at h
    split_ifs at h
    · cases h
      exact .int (by omega) (by omega)
    · cases h
      exact .float (held_ofInt hle).neg
    · cases h
      exact .int (by omega) (by omega)
  · rw [numberValue_of_not_whole hwhole] at h
    split at h
    · exact held_of_scaled h
    · split at h
      · split at h
        · cases h
        · cases h
          cases negative with
          | true => exact .float Binary64.held_zero.neg
          | false => exact .float Binary64.held_zero
      · exact held_of_scaled h

/-! ### Numbers in a text -/

variable {c c' : Cursor} {s : Scalar JsonNumber}

theorem exists_fault_wholePart (h : c.wholePart = (.error s, c')) : ∃ f, s.value = .error f := by
  unfold wholePart at h
  split at h
  · cases h
    exact ⟨_, rfl⟩
  · split_ifs at h
    · cases h
      exact ⟨_, rfl⟩
    · cases h
      exact ⟨_, rfl⟩
    · cases h
    · cases h

theorem exists_fault_fractionPart (h : c.fractionPart = (.error s, c')) :
    ∃ f, s.value = .error f := by
  unfold fractionPart at h
  split at h
  · split at h
    · cases h
      exact ⟨_, rfl⟩
    · cases h
  · cases h

theorem exists_fault_exponentPart (h : c.exponentPart = (.error s, c')) :
    ∃ f, s.value = .error f := by
  unfold exponentPart at h
  split at h
  · cases h
  · split at h
    · dsimp only at h
      split at h
      · split at h
        all_goals
          cases h
          exact ⟨_, rfl⟩
      · cases h
    · cases h

/-- A number that stands in a text is a number that there is room for. -/
theorem held_of_number (h : (c.number negative).1.value = .ok m) : m.Held := by
  have hnone {s : Scalar JsonNumber} (hs : ∃ f, s.value = .error f) : s.value ≠ .ok m := by
    obtain ⟨f, hf⟩ := hs
    rw [hf]
    exact nofun
  unfold number at h
  split at h
  · next hwhole => exact (hnone (exists_fault_wholePart hwhole) h).elim
  · split at h
    · next hfraction => exact (hnone (exists_fault_fractionPart hfraction) h).elim
    · split at h
      · next hexponent => exact (hnone (exists_fault_exponentPart hexponent) h).elim
      · exact held_of_numberValue h

/-! ### Numbers that are read -/

theorem exists_scaled (negative : Bool) (p : NumberParts) (stop : Position)
    (h : (collected p).1 * 10 ^ e.toNat ≤ middle) :
    ∃ m, scaled negative p stop e = .ok m := by
  obtain ⟨x, hx⟩ := exists_scale (collected_le p) h
  unfold scaled
  rw [hx]
  exact ⟨_, rfl⟩

/-- No digits that are collected are shifted beyond the limit by few places. -/
theorem collected_mul_le (p : NumberParts) (he : e ≤ 16) :
    (collected p).1 * 10 ^ e.toNat ≤ middle := by
  have hpow : 10 ^ e.toNat ≤ 10 ^ 16 := Nat.pow_le_pow_right (by decide) (by omega)
  have hroom : digitsLimit * 10 ^ 16 ≤ middle := by decide +kernel
  exact Nat.le_trans (Nat.mul_le_mul (collected_le p) hpow) hroom

/-- A number without an exponent and with few digits before its point is read. -/
theorem exists_numberValue_of_short (hfraction : p.fraction.isSome) (hexponent : p.exponent = none)
    (hlength : p.whole.length ≤ 16) : ∃ m, numberValue negative p stop = .ok m := by
  have hnot : ¬IsWhole p := by
    rintro ⟨-, hnone, -⟩
    simp [Option.isNone_iff_eq_none.1 hnone] at hfraction
  rw [numberValue_of_not_whole hnot, hexponent]
  have hshift := shift_le p
  exact exists_scaled negative p stop (collected_mul_le p (by omega))

/-- A number with an exponent is read, if the exponent is not large or takes the digits no further
than the limit. -/
theorem exists_numberValue_of_exponent (hexponent : p.exponent = some (minus, ds))
    (hlength : p.whole.length ≤ 16)
    (hlarge : minus = false → Numeral.value ds ≤ exponentLimit ∧
      (collected p).1 * 10 ^ (shift p + Numeral.value ds).toNat ≤ middle) :
    ∃ m, numberValue negative p stop = .ok m := by
  have hnot : ¬IsWhole p := by
    rintro ⟨-, -, hnone⟩
    simp [hexponent] at hnone
  rw [numberValue_of_not_whole hnot, hexponent]
  dsimp only
  cases minus with
  | true =>
    split
    · rw [if_neg (by simp)]
      exact ⟨_, rfl⟩
    · have hshift := shift_le p
      exact exists_scaled negative p stop (collected_mul_le p (by simp; omega))
  | false =>
    obtain ⟨hlimit, hscale⟩ := hlarge rfl
    rw [exponentOverflow?_eq_none hlimit]
    exact exists_scaled negative p stop hscale

/-! ## Numbers that are written and read again -/

variable {l : Literal} {units : Nat}

/-- What is collected are the first digits around the point, and the point is shifted by as many
places as digits behind it were collected. -/
theorem exists_collected (hwhole : Numeral.value p.whole ≤ digitsLimit) :
    ∃ es, es <+: p.whole ++ p.fraction.getD [] ∧ (collected p).1 = Numeral.value es ∧
      shift p = (p.whole.length : Int) - es.length := by
  have hcollect : collect 0 p.whole = (Numeral.value p.whole, p.whole.length) :=
    collect_eq hwhole
  unfold shift collected
  rw [hcollect]
  cases p.fraction with
  | none => exact ⟨p.whole, List.prefix_append _ _, rfl, by simp⟩
  | some ds =>
    obtain ⟨j, hj, hfraction⟩ := exists_collect (Numeral.value p.whole) ds
    have hinit := (List.prefix_append_right_inj p.whole).2 (List.take_prefix j ds)
    refine ⟨p.whole ++ ds.take j, hinit, ?_, ?_⟩
    · dsimp only
      rw [hfraction, Numeral.value, Numeral.value, List.foldl_append]
    · dsimp only
      rw [hfraction, List.length_append, List.length_take_of_le hj]
      omega

theorem value_le_of_length_eq (h : ds.length = 1) (hd : ∀ d ∈ ds, Numeral.isDigit d = true) :
    Numeral.value ds ≤ digitsLimit := by
  have hlt := Numeral.value_lt hd
  rw [h] at hlt
  exact Nat.le_trans (Nat.le_of_lt hlt) (by decide)

/-- The first digit of a positive number is not zero. -/
theorem value_pos_of_length_eq (h : Numeral.Significant ds) (hlength : ds.length = 1) :
    0 < Numeral.value ds := by
  obtain ⟨c, rfl⟩ := List.length_eq_one_iff.1 hlength
  have hdigit : '0' ≤ c ∧ c ≤ '9' := by
    simpa [Numeral.isDigit] using h.isDigit c List.mem_cons_self
  have hne : c ≠ '0' := fun hc => h.head_ne (by rw [hc]; rfl)
  have hlt : '0'.toNat < c.toNat := Char.lt_def.1 (lt_of_le_of_ne hdigit.1 hne.symm)
  have hvalue : Numeral.value [c] = c.toNat - '0'.toNat := by
    simp [Numeral.value, Numeral.digitValue]
  rw [hvalue]
  omega

/-- No digits at the front of the shortest ones are shifted beyond the limit, except for the largest
number that there is room for. -/
theorem value_mul_le (h : (Binary64.finite negative units).Held) (hpos : 0 < units)
    (hne : units ≠ greatestUnits) (hds : ds <+: (shortest .double units).digits)
    (hn : (shortest .double units).exponent + 1 = n + ds.length) :
    Numeral.value ds * 10 ^ n ≤ middle := by
  have hle := Nat.le_trans (Binary64.value_shortest_le .double hpos hds hn)
    (Binary64.upper_le h hne)
  exact Nat.le_of_mul_le_mul_right (Nat.le_of_mul_le_mul_left hle (by decide))
    (Nat.two_pow_pos unitExponent)

/-- A number that is written with an exponent is read. -/
theorem exists_numberValue_of_scientific (h : (Binary64.finite negative units).Held)
    (hpos : 0 < units) (hne : units ≠ greatestUnits)
    (hl : l.Scientific (shortest .double units).digits (shortest .double units).exponent)
    (start : Position) :
    ∃ m, numberValue minus ⟨l.whole, l.fraction, l.exponent, start⟩ stop = .ok m := by
  obtain ⟨hlength, hdigits, hexponent⟩ := hl
  refine exists_numberValue_of_exponent hexponent (by rw [hlength]; decide) fun hsign => ?_
  obtain ⟨e, he⟩ := Int.eq_ofNat_of_zero_le (not_lt.1 (of_decide_eq_false hsign))
  have hprefix : l.whole <+: (shortest .double units).digits := hdigits ▸ List.prefix_append _ _
  have hwhole := (Binary64.significant_shortest .double hpos).of_isPrefix hprefix
    (List.ne_nil_of_length_pos (by omega))
  have hfirst := value_pos_of_length_eq hwhole hlength
  -- the first digit alone already bounds the exponent
  have hlt : e < 309 := lt_of_mul_pow_le (by decide +kernel) (Nat.ne_of_gt hfirst)
    (value_mul_le h hpos hne hprefix (by omega))
  rw [he, Int.natAbs_natCast, Numeral.value_toDigits]
  refine ⟨Nat.le_trans (Nat.le_of_lt hlt) (by decide), ?_⟩
  obtain ⟨es, hes, hcollected, hshift⟩ := exists_collected
    (p := ⟨l.whole, l.fraction, l.exponent, start⟩) (value_le_of_length_eq hlength hwhole.isDigit)
  have hshift : shift ⟨l.whole, l.fraction, l.exponent, start⟩ = 1 - es.length := by
    rw [hshift, hlength]
    rfl
  rcases le_or_gt (shift ⟨l.whole, l.fraction, l.exponent, start⟩ + e) 0 with hneg | hplaces
  · exact collected_mul_le _ (by omega)
  · rw [hcollected]
    exact value_mul_le h hpos hne (hdigits ▸ hes) (by omega)

end Cursor

theorem Layout.lt_of_isPlain_json {e : Int} (h : json.isPlain e = true) : e < 16 :=
  of_decide_eq_true (Bool.and_eq_true_iff.1 h).2

/-- A number that there is room for is read again from its text. -/
theorem JsonNumber.Held.exists_reread {n : JsonNumber} (h : n.Held) : ∃ m, n.reread? = some m := by
  cases h with
  | int hlow hhigh => exact ⟨_, reread?_int hlow hhigh⟩
  | @float x hx =>
    cases hx with
    | @finite negative units hlt hdvd =>
      by_cases hgreatest : units = greatestUnits
      · rw [hgreatest, ← Option.isSome_iff_exists]
        cases negative with
        | false => decide +kernel
        | true => decide +kernel
      · obtain ⟨l, hl, htext, hlays⟩ :=
          Layout.exists_literal_render (l := .json) rfl negative units
        obtain ⟨m, hm⟩ : ∃ m, Cursor.numberValue negative
            ⟨l.whole, l.fraction, l.exponent, ⟨1, 0⟩⟩ ⟨1, 0⟩ = .ok m := by
          cases hlays with
          | zero hplain =>
            exact Cursor.exists_numberValue_of_short hplain.fraction hplain.exponent
              (Nat.le_trans hplain.length_le (by decide))
          | plain hlayout hplain =>
            refine Cursor.exists_numberValue_of_short hplain.fraction hplain.exponent
              (Nat.le_trans hplain.length_le ?_)
            have hlt := Layout.lt_of_isPlain_json hlayout
            omega
          | scientific hpos _ hscientific =>
            exact Cursor.exists_numberValue_of_scientific (.finite negative hlt hdvd) hpos hgreatest
              hscientific _
        have htext : (render (.float (.finite negative units))).toList = _ := htext
        exact ⟨m, (Document.reread?_eq_some_iff hl htext _ _).2 hm⟩

end KitchenFlow
