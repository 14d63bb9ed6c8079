import KitchenFlow.Proofs.Digits
import KitchenFlow.Proofs.Fallible
import KitchenFlow.Proofs.Text
import KitchenFlow.Proofs.Time.Calendar

/-!
# Timestamps read back

What a timestamp stands for is written as a timestamp that stands for it. Part by part, reading
takes what writing has put there and leaves the rest:

    number_append      digits
    anyYear_year       a year
    nanos_fraction     the fraction of a second
    parse_render       a whole timestamp
    proper_of_parse    what a timestamp can stand for
-/

namespace KitchenFlow

/-- An instant on a day in use. A leap second is the last second of a minute. -/
structure Instant.Proper (t : Instant) : Prop where
  first : Date.firstDay ≤ t.day
  last : t.day ≤ Date.lastDay
  nanos : t.nanos < 2 * Instant.nanosPerSecond
  leap : Instant.nanosPerSecond ≤ t.nanos → t.seconds % 60 = 59

namespace Timestamp

variable {ds rest : List Char} {width n low high : Nat}

/-! ## Parts -/

theorem isBlankChar_of_isDigit {c : Char} (h : Numeral.isDigit c = true) :
    Text.isBlankChar c = false := by
  simp only [Numeral.isDigit, Bool.and_eq_true, decide_eq_true_eq] at h
  obtain ⟨h0, h9⟩ : 48 ≤ c.toNat ∧ c.toNat ≤ 57 := h
  simp only [Text.isBlankChar, Bool.or_eq_false_iff, Bool.and_eq_false_iff, decide_eq_false_iff_not,
    beq_eq_false_iff_ne]
  omega

theorem trimStart_digits (hds : ds ≠ []) (h : ∀ c ∈ ds, Numeral.isDigit c = true) :
    Text.trimStart (ds ++ rest) = ds ++ rest := by
  cases ds with
  | nil => exact (hds rfl).elim
  | cons c ds => exact Text.trimStart_cons _ (isBlankChar_of_isDigit (h c List.mem_cons_self))

/-- Digits are read as far as the width goes. -/
theorem number_append (width : Nat) (rest : List Char) (hds : ds ≠ [])
    (h : ∀ c ∈ ds, Numeral.isDigit c = true) (hwidth : ds.length ≤ width)
    (hrest : ds.length = width ∨ ∀ c ∈ rest.head?, Numeral.isDigit c = false) :
    number width (ds ++ rest) = .ok (Numeral.value ds, rest) := by
  have htake : ((ds ++ rest).take width).takeWhile Numeral.isDigit = ds := by
    rw [List.take_append, List.take_of_length_le hwidth]
    refine Text.takeWhile_append h ?_
    rcases hrest with hlength | hrest
    · simp [hlength]
    · intro c hc
      rw [List.head?_take] at hc
      split at hc
      · cases hc
      · exact hrest c hc
  unfold number
  rw [htake]
  cases ds with
  | nil => exact (hds rfl).elim
  | cons c ds => simp

theorem bounded_padded (hn : n < 100) (hlow : low ≤ n) (hhigh : n ≤ high) (rest : List Char) :
    bounded low high (padded 2 n ++ rest) = .ok (n, rest) := by
  have hlength : (padded 2 n).length = 2 := length_padded (by decide) hn
  rw [bounded, trimStart_digits (padded_ne_nil 2 n) fun c => isDigit_of_mem_padded,
    number_append 2 rest (padded_ne_nil 2 n) (fun c => isDigit_of_mem_padded) (Nat.le_of_eq hlength)
      (.inl hlength), value_padded]
  exact if_pos ⟨hlow, hhigh⟩

theorem separator_cons {c : Char} (hc : Text.isBlankChar c = false) (rest : List Char) :
    separator c (c :: rest) = .ok rest := by
  rw [separator, Text.trimStart_cons _ hc]
  exact if_pos rfl

theorem signedYear_padded {y : Int} (hy : y.natAbs < 2 ^ 31) (negative : Bool)
    (hsign : (if negative then -(y.natAbs : Int) else y.natAbs) = y) (rest : List Char) :
    signedYear negative (padded 4 y.natAbs ++ '-' :: rest) = .ok (y, '-' :: rest) := by
  have hdigits : ∀ c ∈ padded 4 y.natAbs, Numeral.isDigit c = true :=
    fun c => isDigit_of_mem_padded
  have htake : (padded 4 y.natAbs ++ '-' :: rest).takeWhile Numeral.isDigit = padded 4 y.natAbs :=
    Text.takeWhile_append hdigits (by simp; decide)
  have hlimit : ¬ yearLimit < y.natAbs := by
    have : yearLimit = 2 ^ 63 - 1 := rfl
    omega
  have hrange : -Int.pow 2 31 ≤ y ∧ y < Int.pow 2 31 := by
    have : Int.pow 2 31 = 2 ^ 31 := rfl
    omega
  have hdrop : (padded 4 y.natAbs ++ '-' :: rest).drop (padded 4 y.natAbs).length = '-' :: rest :=
    List.drop_left
  unfold signedYear
  rw [htake]
  split
  · next hnil => exact (padded_ne_nil _ _ hnil).elim
  · rw [value_padded, if_neg hlimit]
    dsimp only
    rw [hsign, if_pos hrange, hdrop]

/-- A year is read back, whether it has a sign or not. -/
theorem anyYear_year {y : Int} (hy : y.natAbs < 2 ^ 31) (rest : List Char) :
    anyYear (year y ++ '-' :: rest) = .ok (y, '-' :: rest) := by
  unfold year
  split
  · next hplain =>
    have hlength : (padded 4 y.toNat).length = 4 := length_padded (by decide) (by omega)
    have hdigits : ∀ c ∈ padded 4 y.toNat, Numeral.isDigit c = true :=
      fun c => isDigit_of_mem_padded
    have hnumber := number_append 4 ('-' :: rest) (padded_ne_nil 4 y.toNat) hdigits
      (Nat.le_of_eq hlength) (.inl hlength)
    rw [value_padded] at hnumber
    have hsign {c : Char} {more : List Char} (h : padded 4 y.toNat ++ '-' :: rest = c :: more) :
        Numeral.isDigit c = true := by
      cases hpadded : padded 4 y.toNat with
      | nil => exact (padded_ne_nil _ _ hpadded).elim
      | cons d ds =>
        rw [hpadded] at h
        exact (List.cons.inj h).1 ▸ hdigits d (hpadded ▸ List.mem_cons_self)
    unfold anyYear
    rw [trimStart_digits (padded_ne_nil 4 y.toNat) hdigits]
    split
    · next h => cases hsign h
    · next h => cases hsign h
    · rw [hnumber]
      show Except.ok _ = _
      rw [Int.toNat_of_nonneg hplain.1]
  · next hsigned =>
    by_cases hneg : y < 0
    · rw [if_pos hneg]
      exact signedYear_padded hy true (by rw [if_pos rfl]; omega) rest
    · rw [if_neg hneg]
      exact signedYear_padded hy false (by rw [if_neg (by decide)]; omega) rest

/-- Three digits of a fraction are written for each power of a thousand that is needed. -/
theorem nanos_digits (n width count : Nat) (hcount : width + count = 9) (hwidth : 0 < width)
    (hn : n < 10 ^ width) :
    nanos ('.' :: padded width n ++ ['Z']) = .ok (n * 10 ^ count, ['Z']) := by
  have hlength : (padded width n).length = width := length_padded hwidth hn
  have hzone : ∀ c ∈ ['Z'].head?, Numeral.isDigit c = false := by
    rintro _ ⟨⟩
    rfl
  have hnumber := number_append 9 ['Z'] (padded_ne_nil width n)
    (fun c => isDigit_of_mem_padded) (by omega) (.inr hzone)
  rw [value_padded] at hnumber
  have htaken : 9 - ((padded width n ++ ['Z']).length - ['Z'].length) = count := by
    rw [List.length_append, hlength]
    simp
    omega
  show (number 9 (padded width n ++ ['Z']) >>= _) = _
  rw [hnumber]
  show Except.ok (n * Nat.pow 10 (9 - ((padded width n ++ ['Z']).length - ['Z'].length)), _) = _
  rw [htaken]
  rfl

theorem nanos_fraction (hn : n < Instant.nanosPerSecond) :
    nanos (fraction n ++ ['Z']) = .ok (n, ['Z']) := by
  have hbillion : Instant.nanosPerSecond = 1000000000 := rfl
  unfold fraction
  split
  · next h => rw [h]; rfl
  · split
    · have h := nanos_digits (n / 1000000) 3 6 rfl (by decide) (by omega)
      rwa [show n / 1000000 * 10 ^ 6 = n by omega] at h
    · split
      · have h := nanos_digits (n / 1000) 6 3 rfl (by decide) (by omega)
        rwa [show n / 1000 * 10 ^ 3 = n by omega] at h
      · have h := nanos_digits n 9 0 rfl (by decide) (by omega)
        rwa [Nat.pow_zero, Nat.mul_one] at h

/-! ## Whole timestamps -/

theorem resolve_self {t : Instant} (ht : t.Proper) :
    resolve (Date.ofDays t.day) (t.secondOfDay.toNat / 3600) (t.secondOfDay.toNat / 60 % 60)
      (t.secondOfDay.toNat % 60 + if Instant.nanosPerSecond ≤ t.nanos then 1 else 0)
      (if Instant.nanosPerSecond ≤ t.nanos then t.nanos - Instant.nanosPerSecond else t.nanos) 0 =
      .ok t := by
  obtain ⟨hfirst, hlast, hnanos, hleap⟩ := ht
  have hperDay : Instant.secondsPerDay = 86400 := rfl
  have hsecond : t.secondOfDay = t.seconds % 86400 := rfl
  have hday : t.day = t.seconds / 86400 := rfl
  unfold resolve
  rw [if_neg (Decidable.not_not.2 (Date.exists_ofDays hfirst hlast)), if_neg (by decide),
    Date.toDays_ofDays]
  by_cases h : Instant.nanosPerSecond ≤ t.nanos
  · have hsixty : t.secondOfDay.toNat % 60 + 1 = 60 := by
      have := hleap h
      omega
    have hseconds : t.day * Instant.secondsPerDay + ((t.secondOfDay.toNat / 3600 : Nat) * 3600 +
        (t.secondOfDay.toNat / 60 % 60 : Nat) * 60 + (59 : Nat)) - 0 = t.seconds := by
      rw [hperDay]
      omega
    have hfraction : t.nanos - Instant.nanosPerSecond + Instant.nanosPerSecond = t.nanos := by omega
    simp only [if_pos h, if_pos hsixty, hseconds, hfraction]
    exact if_pos ⟨hfirst, hlast⟩
  · have hsixty : ¬ t.secondOfDay.toNat % 60 + 0 = 60 := by omega
    have hseconds : t.day * Instant.secondsPerDay + ((t.secondOfDay.toNat / 3600 : Nat) * 3600 +
        (t.secondOfDay.toNat / 60 % 60 : Nat) * 60 + (t.secondOfDay.toNat % 60 + 0 : Nat)) - 0 =
        t.seconds := by
      rw [hperDay]
      omega
    simp only [if_neg h, if_neg hsixty, hseconds]
    exact if_pos ⟨hfirst, hlast⟩

/-- A timestamp is read back as what it was written for. -/
theorem parse_render {t : Instant} (ht : t.Proper) : parse (render t) = .ok t := by
  have hresolve := resolve_self ht
  obtain ⟨hfirst, hlast, hnanos, -⟩ := ht
  obtain ⟨hlow, hhigh, hmonth, hmonth', hday, hday'⟩ := Date.exists_ofDays hfirst hlast
  have hdays : Date.daysInMonth (Date.ofDays t.day).year (Date.ofDays t.day).month ≤ 31 := by
    unfold Date.daysInMonth
    split_ifs <;> decide
  have hyear : (Date.ofDays t.day).year.natAbs < 2 ^ 31 := by
    unfold Date.firstYear at hlow
    unfold Date.lastYear at hhigh
    omega
  have hclock : t.secondOfDay.toNat < 86400 := by
    have : t.secondOfDay = t.seconds % 86400 := rfl
    omega
  have hbillion : Instant.nanosPerSecond = 1000000000 := rfl
  unfold render
  dsimp only
  unfold parse
  simp only [String.toList_ofList, List.append_assoc, List.cons_append]
  rw [anyYear_year hyear]
  dsimp only [bind, Except.bind]
  rw [separator_cons (by decide)]
  dsimp only
  rw [bounded_padded (by omega) hmonth hmonth']
  dsimp only
  rw [separator_cons (by decide)]
  dsimp only
  rw [bounded_padded (by omega) hday (by omega)]
  dsimp only
  rw [if_pos (.inr (.inl rfl))]
  rw [bounded_padded (by omega) (by omega) (by omega)]
  dsimp only
  rw [separator_cons (by decide)]
  dsimp only
  rw [bounded_padded (by omega) (by omega) (by omega)]
  dsimp only
  rw [separator_cons (by decide)]
  dsimp only
  rw [bounded_padded (by split <;> omega) (by omega) (by split <;> omega)]
  dsimp only
  rw [nanos_fraction (by split <;> omega)]
  exact hresolve

/-! ## What is read -/

variable {cs : List Char}

theorem number_eq_ok {width : Nat} (h : number width cs = .ok (n, rest)) :
    ∃ ds, (∀ c ∈ ds, Numeral.isDigit c = true) ∧ ds.length ≤ width ∧ ds.length ≤ cs.length ∧
      n = Numeral.value ds ∧ rest = cs.drop ds.length := by
  unfold number at h
  split at h
  · cases h
  · next hds =>
    cases h
    refine ⟨_, List.all_eq_true.1 (List.all_takeWhile ..), ?_, ?_, rfl, rfl⟩
    · have hlength := (List.takeWhile_sublist Numeral.isDigit (l := cs.take width)).length_le
      rw [List.length_take] at hlength
      exact Nat.le_trans hlength (Nat.min_le_left _ _)
    · have hlength := (List.takeWhile_sublist Numeral.isDigit (l := cs.take width)).length_le
      rw [List.length_take] at hlength
      exact Nat.le_trans hlength (Nat.min_le_right _ _)

/-- A fraction is less than a second. -/
theorem nanos_lt (h : nanos cs = .ok (n, rest)) : n < Instant.nanosPerSecond := by
  unfold nanos at h
  split at h
  · next fraction =>
    obtain ⟨⟨m, after⟩, hnumber, h⟩ := Fallible.bind_eq_ok_iff.1 h
    cases h
    obtain ⟨ds, hdigits, hnine, hlength, rfl, rfl⟩ := number_eq_ok hnumber
    have hcount : fraction.length - (fraction.drop ds.length).length = ds.length := by
      rw [List.length_drop]
      omega
    rw [hcount]
    calc Numeral.value ds * 10 ^ (9 - ds.length)
        < 10 ^ ds.length * 10 ^ (9 - ds.length) :=
          Nat.mul_lt_mul_of_pos_right (Numeral.value_lt hdigits) (Nat.pow_pos (by decide))
      _ = 10 ^ (ds.length + (9 - ds.length)) := (Nat.pow_add ..).symm
      _ = 10 ^ 9 := by rw [Nat.add_sub_cancel' hnine]
  · cases h
    decide

theorem offsetSize_mod (h : offsetSize cs = .ok (n, rest)) : n % 60 = 0 := by
  obtain ⟨⟨hours, after⟩, -, h⟩ := Fallible.bind_eq_ok_iff.1 h
  obtain ⟨⟨minutes, after⟩, -, h⟩ := Fallible.bind_eq_ok_iff.1 h
  cases h
  omega

/-- An offset is made of whole minutes. -/
theorem offset_mod {o : Int} (h : offset cs = .ok (o, rest)) : o % 60 = 0 := by
  have hsize {more : List Char} {sign : Nat → Int}
      (hsign : ∀ n, sign n = n ∨ sign n = -(n : Int))
      (h : (offsetSize more >>= fun x => .ok (sign x.1, x.2)) = .ok (o, rest)) : o % 60 = 0 := by
    obtain ⟨⟨n, after⟩, hn, h⟩ := Fallible.bind_eq_ok_iff.1 h
    cases h
    have hmod := offsetSize_mod hn
    rcases hsign n with hn | hn
    · simp only [hn]
      omega
    · simp only [hn]
      omega
  unfold offset at h
  split at h
  · cases h
  · split at h
    · cases h
      rfl
    · cases h
      rfl
    · exact hsize (fun _ => .inl rfl) h
    · exact hsize (fun _ => .inr rfl) h
    · exact hsize (fun _ => .inr rfl) h
    · split at h
      · cases h
        rfl
      · cases h
    · cases h

theorem proper_of_resolve {date : Date} {hour minute second nanos : Nat} {offset : Int}
    {t : Instant} (h : resolve date hour minute second nanos offset = .ok t)
    (hnanos : nanos < Instant.nanosPerSecond) (hoffset : offset % 60 = 0) : t.Proper := by
  have hperDay : Instant.secondsPerDay = 86400 := rfl
  unfold resolve at h
  split at h
  · cases h
  split at h
  · cases h
  by_cases hsixty : second = 60
  · simp only [if_pos hsixty] at h
    split at h
    · next hday =>
      cases h
      refine ⟨hday.1, hday.2, by dsimp only; omega, fun _ => ?_⟩
      dsimp only
      rw [hperDay]
      omega
    · cases h
  · simp only [if_neg hsixty] at h
    split at h
    · next hday =>
      cases h
      exact ⟨hday.1, hday.2, by dsimp only; omega, fun hleap => absurd hnanos (Nat.not_lt.2 hleap)⟩
    · cases h

/-- What a timestamp stands for can be written as a timestamp. -/
theorem proper_of_parse {s : String} {t : Instant} (h : parse s = .ok t) : t.Proper := by
  unfold parse at h
  simp only [Fallible.bind_eq_ok_iff, Prod.exists] at h
  obtain ⟨year, cs, -, cs, -, month, cs, -, cs, -, day, cs, -, h⟩ := h
  split at h
  · cases h
  · split at h
    · simp only [Fallible.bind_eq_ok_iff, Prod.exists] at h
      obtain ⟨_, -, hour, cs, -, cs, -, minute, cs, -, cs, -, second, cs, -, nanos, cs, hnanos,
        offset, cs, hoffset, h⟩ := h
      split at h
      · exact proper_of_resolve h (nanos_lt hnanos) (offset_mod hoffset)
      · cases h
    · cases h

end Timestamp
end KitchenFlow
