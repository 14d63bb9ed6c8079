import KitchenFlow.Time.Calendar
import Mathlib.Tactic.SplitIfs

/-!
# Days and dates

Every day has a date, which exists, and which has the number of the day. An era consists of
centuries of 36524 days, which consist of cycles of 1461 days, which consist of years of 365 days;
what is left over at the end of a cycle or of an era is the last day of its last year. So a day of
an era is found by four numbers, and they tell its year and its day in the year:

    Place.exists_of_day      the century, the cycle, the year and the day of a day of an era
    Place.year_eq            the year, as it is computed
    toDays_ofDays            the number of the date of a day
    exists_ofDays            the date of a day exists
-/

namespace KitchenFlow.Date

/-- Where a day stands in its era. -/
structure Place where
  century : Int
  cycle : Int
  year : Int
  day : Int
  century_bounds : 0 ≤ century ∧ century ≤ 3
  cycle_bounds : 0 ≤ cycle ∧ cycle ≤ 24
  year_bounds : 0 ≤ year ∧ year ≤ 3
  day_bounds : 0 ≤ day ∧ day ≤ 365
  leap : day = 365 → year = 3 ∧ (cycle ≠ 24 ∨ century = 3)

namespace Place

/-- The number of a day in its era. -/
def dayOfEra (p : Place) : Int := 36524 * p.century + 1461 * p.cycle + 365 * p.year + p.day

/-- The number of its year in the era. -/
def yearOfEra (p : Place) : Int := 100 * p.century + 4 * p.cycle + p.year

theorem exists_of_day {d : Int} (h0 : 0 ≤ d) (h1 : d < 146097) : ∃ p : Place, p.dayOfEra = d := by
  obtain ⟨c, q, r, s, hc, hq, hr, hs, hl, hd⟩ : ∃ c q r s : Int, (0 ≤ c ∧ c ≤ 3) ∧
      (0 ≤ q ∧ q ≤ 24) ∧ (0 ≤ r ∧ r ≤ 3) ∧ (0 ≤ s ∧ s ≤ 365) ∧
      (s = 365 → r = 3 ∧ (q ≠ 24 ∨ c = 3)) ∧ 36524 * c + 1461 * q + 365 * r + s = d := by
    -- the last day of an era or of a cycle would begin a fifth century or a fifth year
    refine ⟨min (d / 36524) 3, (d - 36524 * min (d / 36524) 3) / 1461,
      min ((d - 36524 * min (d / 36524) 3) % 1461 / 365) 3,
      (d - 36524 * min (d / 36524) 3) % 1461 -
        365 * min ((d - 36524 * min (d / 36524) 3) % 1461 / 365) 3, ?_⟩
    omega
  exact ⟨⟨c, q, r, s, hc, hq, hr, hs, hl⟩, hd⟩

/-- The year of a day is found by leaving out the leap days before it. -/
theorem year_eq (p : Place) :
    (p.dayOfEra - p.dayOfEra / 1460 + p.dayOfEra / 36524 - p.dayOfEra / 146096) / 365 =
      p.yearOfEra := by
  obtain ⟨c, q, r, s, hc, hq, hr, hs, hl⟩ := p
  dsimp only [dayOfEra, yearOfEra]
  generalize hd : 36524 * c + 1461 * q + 365 * r + s = d
  have hcycles : d / 1460 = 25 * c + q + if 1460 ≤ 24 * c + q + 365 * r + s then 1 else 0 := by
    split <;> omega
  have hcenturies : d / 36524 = c + if q = 24 ∧ s = 365 then 1 else 0 := by
    split <;> omega
  have hera : d / 146096 = if q = 24 ∧ s = 365 then 1 else 0 := by
    split <;> omega
  rw [hcycles, hcenturies, hera]
  split <;> split <;> omega

theorem yearOfEra_bounds (p : Place) : 0 ≤ p.yearOfEra ∧ p.yearOfEra < 400 := by
  obtain ⟨c, q, r, s, hc, hq, hr, hs, hl⟩ := p
  dsimp only [yearOfEra]
  omega

theorem dayOfEra_bounds (p : Place) : 0 ≤ p.dayOfEra ∧ p.dayOfEra < 146097 := by
  obtain ⟨c, q, r, s, hc, hq, hr, hs, hl⟩ := p
  dsimp only [dayOfEra]
  omega

theorem dayOfYear_eq (p : Place) :
    p.dayOfEra - (365 * p.yearOfEra + p.yearOfEra / 4 - p.yearOfEra / 100) = p.day := by
  obtain ⟨c, q, r, s, hc, hq, hr, hs, hl⟩ := p
  dsimp only [dayOfEra, yearOfEra]
  omega

/-- The last day is a leap day. -/
theorem isLeap_of_day (p : Place) (h : p.day = 365) (era : Int) :
    isLeap (p.yearOfEra + era * 400 + 1) = true := by
  obtain ⟨hyear, hcycle⟩ := p.leap h
  obtain ⟨c, q, r, s, hc, hq, hr, hs, hl⟩ := p
  simp only [isLeap, yearOfEra, Bool.and_eq_true, Bool.or_eq_true, beq_iff_eq, bne_iff_ne] at *
  omega

end Place

/-! ## Dates

Months are counted from March, so that their lengths come in a pattern. -/

/-- The month of a day of the year. -/
def marchMonth (day : Int) : Int := (5 * day + 2) / 153

/-- The day of the month. -/
def dayOfMonth (day : Int) : Int := day - (153 * marchMonth day + 2) / 5 + 1

theorem marchMonth_bounds (p : Place) : 0 ≤ marchMonth p.day ∧ marchMonth p.day ≤ 11 := by
  have h := p.day_bounds
  unfold marchMonth
  omega

/-- The date of a day that stands at a place in an era. -/
theorem ofDays_eq {n era : Int} {p : Place} (h : n + epochShift = era * daysPerEra + p.dayOfEra) :
    ofDays n =
      let m := marchMonth p.day
      ⟨p.yearOfEra + era * 400 + if m < 10 then 0 else 1,
        (if m < 10 then m + 3 else m - 9).toNat, (dayOfMonth p.day).toNat⟩ := by
  have hera : (n + epochShift) / daysPerEra = era := by
    have hbounds := p.dayOfEra_bounds
    unfold daysPerEra at *
    omega
  have hday : n + epochShift - era * daysPerEra = p.dayOfEra := by omega
  have hm := marchMonth_bounds p
  unfold ofDays
  dsimp only
  rw [hera, hday, p.year_eq, p.dayOfYear_eq]
  change Date.mk (if (if marchMonth p.day < 10 then marchMonth p.day + 3 else marchMonth p.day - 9)
    ≤ 2 then _ else _) _ _ = _
  congr 1
  split <;> split <;> omega

/-- A day and its place, and what is computed of them. -/
theorem exists_place (n : Int) : ∃ (era : Int) (p : Place),
    n + epochShift = era * daysPerEra + p.dayOfEra := by
  have hlow : 0 ≤ (n + epochShift) % daysPerEra := Int.emod_nonneg _ (by decide)
  have hhigh : (n + epochShift) % daysPerEra < 146097 := Int.emod_lt_of_pos _ (by decide)
  obtain ⟨p, hp⟩ := Place.exists_of_day hlow hhigh
  exact ⟨(n + epochShift) / daysPerEra, p, by rw [hp, Int.mul_comm, Int.mul_ediv_add_emod]⟩

theorem toDays_ofDays (n : Int) : (ofDays n).toDays = n := by
  obtain ⟨era, p, h⟩ := exists_place n
  have hm := marchMonth_bounds p
  have hy := p.yearOfEra_bounds
  have hdays := p.dayOfYear_eq
  have hday : 0 < dayOfMonth p.day := by
    have := p.day_bounds
    unfold dayOfMonth marchMonth
    omega
  have hmonth : dayOfMonth p.day + (153 * marchMonth p.day + 2) / 5 - 1 = p.day := by
    unfold dayOfMonth
    omega
  -- the year that begins in March, and its month
  have hyear : (if (ofDays n).month ≤ 2 then (ofDays n).year - 1 else (ofDays n).year) =
      p.yearOfEra + era * 400 := by
    rw [ofDays_eq h]
    dsimp only
    split_ifs <;> omega
  have hmarch : ((((ofDays n).month + 9) % 12 : Nat) : Int) = marchMonth p.day := by
    rw [ofDays_eq h]
    dsimp only
    split_ifs <;> omega
  have hera : (p.yearOfEra + era * 400) / 400 = era := by omega
  have hof : ((ofDays n).day : Int) = dayOfMonth p.day := by
    rw [ofDays_eq h]
    exact Int.toNat_of_nonneg (Int.le_of_lt hday)
  unfold toDays
  dsimp only
  rw [hyear, hmarch, hera, hof]
  omega

/-- The dates of the days between two first days of a year are in these years and those between. -/
theorem year_ofDays_bounds {n : Int} (hfirst : firstDay ≤ n) (hlast : n ≤ lastDay) :
    firstYear ≤ (ofDays n).year ∧ (ofDays n).year ≤ lastYear := by
  obtain ⟨era, p, h⟩ := exists_place n
  have hm := marchMonth_bounds p
  have hy := p.yearOfEra_bounds
  have hdays := p.dayOfYear_eq
  have hday := p.day_bounds
  have hfirstDay : firstDay = -96465292 := rfl
  have hlastDay : lastDay = 95026236 := rfl
  have hmarch : marchMonth p.day < 10 ↔ p.day < 306 := by
    unfold marchMonth
    omega
  rw [ofDays_eq h]
  unfold epochShift daysPerEra at h
  unfold firstYear lastYear
  dsimp only
  simp only [hmarch]
  by_cases hbefore : p.day < 306
  · rw [if_pos hbefore]
    omega
  · -- the last year in use is the one after the March year 142 of era 655
    have hlate : era < 655 ∨ era = 655 ∧ (p.yearOfEra < 142 ∨ p.yearOfEra = 142) ∨
        era = 655 ∧ 143 ≤ p.yearOfEra ∨ 656 ≤ era := by omega
    rw [if_neg hbefore]
    omega

/-- Every day in use has a date. -/
theorem exists_ofDays {n : Int} (hfirst : firstDay ≤ n) (hlast : n ≤ lastDay) :
    (ofDays n).Exists := by
  obtain ⟨hlow, hhigh⟩ := year_ofDays_bounds hfirst hlast
  obtain ⟨era, p, h⟩ := exists_place n
  have hm := marchMonth_bounds p
  have hday := p.day_bounds
  have hleap := p.isLeap_of_day
  refine ⟨hlow, hhigh, ?_⟩
  rw [ofDays_eq h]
  unfold dayOfMonth
  dsimp only
  -- the days of each month, by its number from March
  have hmonth : 153 * marchMonth p.day ≤ 5 * p.day + 2 ∧
      5 * p.day + 2 < 153 * marchMonth p.day + 153 := by
    unfold marchMonth
    omega
  generalize marchMonth p.day = m at *
  by_cases hfebruary : m = 11
  · -- February has 29 days if the year of the day has
    subst hfebruary
    refine ⟨by decide, by decide, by omega, ?_⟩
    show _ ≤ daysInMonth (p.yearOfEra + era * 400 + 1) 2
    rw [daysInMonth, if_pos rfl]
    by_cases hlast : p.day = 365
    · rw [if_pos (hleap hlast era)]
      omega
    · split <;> omega
  · obtain rfl | rfl | rfl | rfl | rfl | rfl | rfl | rfl | rfl | rfl | rfl :
        m = 0 ∨ m = 1 ∨ m = 2 ∨ m = 3 ∨ m = 4 ∨ m = 5 ∨ m = 6 ∨ m = 7 ∨ m = 8 ∨ m = 9 ∨ m = 10 := by
      omega
    all_goals
      refine ⟨by decide, by decide, by omega, ?_⟩
      simp [daysInMonth]
      omega

end KitchenFlow.Date
